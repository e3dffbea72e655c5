import PayoutRegistry.Proofs.History

/-!
The primary account. Only verified accounts are primary, a user has at most one primary account, and a
user with a verified account has one: the first verified account claims the flag, promotion moves it, and
the account that has it is not deleted.
-/
namespace PayoutRegistry

/-- Every user with a verified account has a primary one. -/
def Ledger.Led (l : Ledger) : Prop :=
  ∀ a ∈ l.accounts, a.isVerified = true → ∃ b ∈ l.accounts, b.owner = a.owner ∧ b.isPrimary = true

namespace Ledger

variable {l l' : Ledger} {a b : Account} {owner id : Uuid} {now : Instant}

theorem led_empty : Led .empty := by
  intro a ha
  cases ha

/-- A row that is not verified makes no demands, so it may come in or be written over. -/
theorem led_waiting (h : l.Led) (hmem : ∀ c ∈ l'.accounts, c ∈ l.accounts ∨ c.isVerified = false)
    (hkeep : ∀ c ∈ l.accounts, c.isPrimary = true → c ∈ l'.accounts) : l'.Led := by
  intro c hc hv
  rcases hmem c hc with hc | hw
  · obtain ⟨b, hb, ho, hp⟩ := h c hc hv
    exact ⟨b, hkeep b hb hp, ho, hp⟩
  · rw [hw] at hv
    cases hv

theorem led_admitted (hs : l.Sound) (h : l.Led) (ha : a ∈ l.accounts)
    (hw : a.isVerified = false) : (l.overwrite (admitted l a now)).Led := by
  have hmem : admitted l a now ∈ (l.overwrite (admitted l a now)).accounts :=
    mem_overwrite.mpr (Or.inl ⟨rfl, a, ha, rfl⟩)
  have hkeep : ∀ b ∈ l.accounts, b.isPrimary = true →
      b ∈ (l.overwrite (admitted l a now)).accounts := by
    intro b hb hp
    have hne := hs.id_ne_of_primary ha (hs.not_primary ha hw) hb hp
    exact mem_overwrite.mpr (Or.inr ⟨hb, hne⟩)
  intro c hc hv
  rcases mem_overwrite.mp hc with ⟨rfl, -⟩ | ⟨hc, -⟩
  · by_cases hz : l.verifiedCount a.owner = 0
    · exact ⟨_, hmem, rfl, by simp [admitted, hz]⟩
    · -- Another account was verified before, and its user has a primary one already.
      obtain ⟨b, hb, ho, hbv⟩ : ∃ b ∈ l.accounts, b.owner = a.owner ∧ b.isVerified = true := by
        by_contra hn
        refine hz (verifiedCount_eq_zero.mpr fun b hb ho => ?_)
        by_contra hbv
        exact hn ⟨b, hb, ho, by simpa using hbv⟩
      obtain ⟨d, hd, hdo, hp⟩ := h b hb hbv
      exact ⟨d, hkeep d hd hp, hdo.trans ho, hp⟩
  · obtain ⟨b, hb, ho, hp⟩ := h c hc hv
    exact ⟨b, hkeep b hb hp, ho, hp⟩

/-- Promotion moves the flag within the rows of one user, and touches nobody else's. -/
theorem led_promoted (h : l.Led) (ha : a ∈ l.accounts) : (l.promoted a now).Led := by
  have hnew : { a with isPrimary := true, updatedAt := now } ∈ (l.promoted a now).accounts :=
    mem_rewritten.mpr (Or.inr ⟨a, ha, rfl, by simp⟩)
  intro c hc hv
  rcases mem_rewritten.mp hc with ⟨hc, hne⟩ | ⟨d, hd, ho, rfl⟩
  · obtain ⟨b, hb, ho, hp⟩ := h c hc hv
    exact ⟨b, mem_rewritten.mpr (Or.inl ⟨hb, ho ▸ hne⟩), ho, hp⟩
  · exact ⟨_, hnew, ho.symm, rfl⟩

theorem led_accepted {c : Circumstances} {s : Store} {act : Action} {x : Answer}
    (hs : s.ledger.Sound) (h : s.ledger.Led) (ha : Accepted c s act x l) : l.Led := by
  cases ha with
  | refresh found waiting _ =>
    obtain ⟨hm, -⟩ := registered?_some found
    refine led_waiting h ?_ ?_
    · intro b hb
      rcases mem_overwrite.mp hb with ⟨rfl, -⟩ | ⟨hb, -⟩
      · exact Or.inr rfl
      · exact Or.inl hb
    · intro b hb hp
      have hne := hs.id_ne_of_primary hm (hs.not_primary hm waiting) hb hp
      exact mem_overwrite.mpr (Or.inr ⟨hb, hne⟩)
  | insert _ _ _ =>
    refine led_waiting h ?_ ?_
    · intro b hb
      rcases mem_extended.mp hb with hb | rfl
      · exact Or.inl hb
      · exact Or.inr rfl
    · intro b hb _
      exact mem_extended.mpr (Or.inl hb)
  | verify found waiting _ _ _ =>
    exact led_admitted hs h (owned?_some found).1 waiting
  | promote found _ =>
    obtain ⟨hm, rfl, -⟩ := owned?_some found
    exact led_promoted h hm
  | delete found spare =>
    obtain ⟨hm, -, rfl⟩ := owned?_some found
    refine led_waiting h ?_ ?_
    · intro b hb
      exact Or.inl (mem_without.mp hb).1
    · intro b hb hp
      exact mem_without.mpr ⟨hb, hs.id_ne_of_primary hm spare hb hp⟩
  | list => exact h

theorem Sound.primaries_le_one (h : l.Sound) (owner : Uuid) :
    (l.ownedBy owner).countP (·.isPrimary) ≤ 1 := by
  have hd : (l.ownedBy owner).Pairwise fun a b => ¬(a.isPrimary = true ∧ b.isPrimary = true) := by
    refine (h.apart.filter _).imp_of_mem ?_
    intro a b ha hb hc hp
    have hao := (mem_ownedBy.mp ha).2
    have hbo := (mem_ownedBy.mp hb).2
    exact (compatible_iff.mp hc).2.2 ⟨hao.trans hbo.symm, hp⟩
  generalize l.ownedBy owner = rows at hd
  induction rows with
  | nil => exact Nat.zero_le 1
  | cons a rows ih =>
    obtain ⟨ha, hd⟩ := List.pairwise_cons.mp hd
    cases hp : a.isPrimary with
    | false => simpa [hp] using ih hd
    | true =>
      have hrest : rows.countP (·.isPrimary) = 0 :=
        List.countP_eq_zero.mpr fun b hb hpb => ha b hb ⟨hp, hpb⟩
      simp [hp, hrest]

end Ledger

theorem led_after (events : List Event) : (after events).ledger.Led := by
  refine (after_induction events Ledger.led_empty ?_ ?_).2
  · intro l l' hl h
    simpa only [Ledger.Led, hl] using h
  · intro c s a x l _ hs h ha
    exact Ledger.led_accepted hs h ha

/-- A primary account is verified, and a user with verified accounts has exactly one primary account. -/
theorem exactly_one_primary (events : List Event) :
    (∀ a ∈ (after events).ledger.accounts, a.isPrimary = true → a.isVerified = true) ∧
      ∀ owner : Uuid, ((after events).ledger.ownedBy owner).countP (·.isPrimary) =
        if ((after events).ledger.ownedBy owner).any (·.isVerified) then 1 else 0 := by
  have hs := sound_after events
  refine ⟨hs.verified, ?_⟩
  intro owner
  split
  · rename_i hv
    obtain ⟨a, ha, hav⟩ := List.any_eq_true.mp hv
    obtain ⟨ha, hao⟩ := Ledger.mem_ownedBy.mp ha
    obtain ⟨b, hb, hbo, hbp⟩ := led_after events a ha hav
    have hpos : 0 < ((after events).ledger.ownedBy owner).countP (·.isPrimary) :=
      List.countP_pos_iff.mpr ⟨b, Ledger.mem_ownedBy.mpr ⟨hb, hbo.trans hao⟩, hbp⟩
    have hle := hs.primaries_le_one owner
    omega
  · rename_i hv
    refine List.countP_eq_zero.mpr ?_
    intro a ha hp
    have hav := hs.verified a (Ledger.mem_ownedBy.mp ha).1 hp
    exact hv (List.any_eq_true.mpr ⟨a, ha, hav⟩)

end PayoutRegistry
