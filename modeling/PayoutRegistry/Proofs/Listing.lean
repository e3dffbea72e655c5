import PayoutRegistry.Proofs.Addition
import PayoutRegistry.Proofs.Continuity
import PayoutRegistry.Proofs.StoredTimes

/-!
Listings. The accounts of a user are listed each once, the primary one first and then from new to old, which is the
order of the texts under which their times are kept. Where two rows differ in this, their order is settled by what is
said of them, and it stands as long as that stands.
-/
namespace PayoutRegistry

/-- A row that has to be listed before another: it is the primary one of the two, or the newer one. -/
def Account.Outranks (a b : Account) : Prop :=
  a.isPrimary = true ∧ b.isPrimary = false ∨ a.isPrimary = b.isPrimary ∧ b.createdAt < a.createdAt

/-- The event comes to nothing. -/
def Event.Fails (s : Store) : Event → Prop
  | .call c a => ∃ f, (a.perform c s).result = .error f
  | .signup c form => ∃ f, (Operation.enrol c form s).1 = .error f

/-- Both are in the list, the one before the other. -/
def Before {α : Type} (l : List α) (a b : α) : Prop := [a, b].Sublist l

theorem before_or {α : Type} {l : List α} {a b : α} (ha : a ∈ l) (hb : b ∈ l) (hne : a ≠ b) :
    Before l a b ∨ Before l b a := by
  obtain ⟨before, after, rfl⟩ := List.append_of_mem ha
  rcases List.mem_append.mp hb with hb | hb
  · right
    have hpair : ([b] ++ [a]).Sublist (before ++ a :: after) :=
      (List.singleton_sublist.mpr hb).append (List.singleton_sublist.mpr List.mem_cons_self)
    exact hpair
  · left
    have hb : b ∈ after := (List.mem_cons.mp hb).resolve_left hne.symm
    have hpair : [a, b].Sublist (a :: after) := (List.singleton_sublist.mpr hb).cons_cons a
    exact hpair.trans (List.sublist_append_right before (a :: after))

namespace Ledger

variable {l l' : Ledger} {a b c : Account} {owner : Uuid}

/-! ### One listing -/

theorem precedes_iff : precedes a b = true ↔
    (b.isPrimary = true → a.isPrimary = true) ∧
      (a.isPrimary = b.isPrimary → b.createdAt ≤ a.createdAt) := by
  simp only [precedes, Moment.storedText_le_iff]
  cases a.isPrimary <;> cases b.isPrimary <;> simp

theorem precedes_trans (hab : precedes a b = true) (hbc : precedes b c = true) :
    precedes a c = true := by
  rw [precedes_iff] at hab hbc ⊢
  obtain ⟨hflag, hage⟩ := hab
  obtain ⟨hflag', hage'⟩ := hbc
  refine ⟨fun hc => hflag (hflag' hc), ?_⟩
  intro hac
  -- Equal flags at both ends leave no other flag in the middle.
  have hflags : a.isPrimary = b.isPrimary ∧ b.isPrimary = c.isPrimary := by
    cases ha : a.isPrimary <;> cases hb : b.isPrimary <;> cases hc : c.isPrimary <;> simp_all
  exact Nat.le_trans (hage' hflags.2) (hage hflags.1)

theorem precedes_total (a b : Account) : (precedes a b || precedes b a) = true := by
  rw [Bool.or_eq_true, precedes_iff, precedes_iff]
  have htotal : a.createdAt ≤ b.createdAt ∨ b.createdAt ≤ a.createdAt := Nat.le_total _ _
  cases a.isPrimary <;> cases b.isPrimary <;> simp [htotal.symm]

theorem mem_listing : a ∈ l.listing owner ↔ a ∈ l.accounts ∧ a.owner = owner := by
  rw [listing, List.mem_mergeSort, mem_ownedBy]

theorem sorted_listing (l : Ledger) (owner : Uuid) :
    (l.listing owner).Pairwise fun a b => precedes a b = true :=
  @List.pairwise_mergeSort _ precedes (fun _ _ _ => precedes_trans) precedes_total _

theorem nodup_listing (h : l.Sound) (owner : Uuid) : (l.listing owner).Nodup := by
  have hrows : l.accounts.Nodup := by
    refine h.apart.imp ?_
    rintro a _ hab rfl
    exact (compatible_iff.mp hab).1 rfl
  exact (List.mergeSort_perm _ _).nodup_iff.mpr (hrows.filter _)

/-- The first row of a user with a primary account is that account, and no row behind it is primary. -/
theorem listing_led (h : l.Sound) (ha : a ∈ l.accounts) (ho : a.owner = owner)
    (hp : a.isPrimary = true) :
    ∃ rest, l.listing owner = a :: rest ∧ ∀ b ∈ rest, b.isPrimary = false := by
  have hsorted := sorted_listing l owner
  have hnodup := nodup_listing h owner
  have hmem : ∀ b, b ∈ l.listing owner ↔ b ∈ l.accounts ∧ b.owner = owner := fun b => mem_listing
  -- No other row of the user is primary.
  have honly : ∀ b ∈ l.listing owner, b.isPrimary = true → b = a := by
    intro b hb hbp
    obtain ⟨hb, hbo⟩ := (hmem b).mp hb
    by_contra hne
    have hapart := (compatible_iff.mp (h.compatible hb ha hne)).2.2
    exact hapart ⟨hbo.trans ho.symm, hbp, hp⟩
  have ha : a ∈ l.listing owner := (hmem a).mpr ⟨ha, ho⟩
  generalize l.listing owner = rows at hsorted hnodup honly ha
  cases rows with
  | nil => cases ha
  | cons first rest =>
    have hfirst : first.isPrimary = true := by
      rcases List.mem_cons.mp ha with rfl | ha
      · exact hp
      · exact (precedes_iff.mp (List.rel_of_pairwise_cons hsorted ha)).1 hp
    obtain rfl := honly first List.mem_cons_self hfirst
    refine ⟨rest, rfl, ?_⟩
    intro b hb
    rw [Bool.eq_false_iff]
    intro hbp
    obtain rfl := honly b (List.mem_cons_of_mem _ hb) hbp
    exact (List.nodup_cons.mp hnodup).1 hb

/-! ### Two listings -/

/-- What is said of two rows settles their order, unless it is the same of both. -/
theorem listed_before_iff (h : l.Sound) (ha : a ∈ l.listing owner) (hb : b ∈ l.listing owner)
    (hdiffer : a.isPrimary ≠ b.isPrimary ∨ a.createdAt ≠ b.createdAt) :
    Before ((l.listing owner).map (·.id)) a.id b.id ↔ a.Outranks b := by
  have hid : ∀ x ∈ l.listing owner, ∀ y ∈ l.listing owner, x.id = y.id → x = y :=
    fun x hx y hy => h.eq_of_id (mem_listing.mp hx).1 (mem_listing.mp hy).1
  have hrows : Before ((l.listing owner).map (·.id)) a.id b.id ↔ Before (l.listing owner) a b := by
    constructor
    · intro hpair
      obtain ⟨rows, hsub, hmap⟩ := List.sublist_map_iff.mp hpair
      obtain ⟨x, rows, rfl, hx, hmap⟩ := List.map_eq_cons_iff.mp hmap.symm
      obtain ⟨y, rows, rfl, hy, hmap⟩ := List.map_eq_cons_iff.mp hmap
      obtain rfl := List.map_eq_nil_iff.mp hmap
      obtain rfl := hid x (hsub.subset (by simp)) a ha hx
      obtain rfl := hid y (hsub.subset (by simp)) b hb hy
      exact hsub
    · intro hpair
      exact List.Sublist.map (·.id) hpair
  have hsorted : ∀ x y, Before (l.listing owner) x y → precedes x y = true :=
    fun x y hpair => List.pairwise_iff_forall_sublist.mp (sorted_listing l owner) hpair
  rw [hrows]
  constructor
  · intro hpair
    obtain ⟨hflag, hage⟩ := precedes_iff.mp (hsorted a b hpair)
    by_cases hsame : a.isPrimary = b.isPrimary
    · have hne : a.createdAt ≠ b.createdAt := hdiffer.resolve_left (not_not.mpr hsame)
      have hle : b.createdAt.micros ≤ a.createdAt.micros := hage hsame
      have hmicros : b.createdAt.micros ≠ a.createdAt.micros := fun heq =>
        hne (Instant.micros_inj.mp heq.symm)
      exact Or.inr ⟨hsame, Nat.lt_of_le_of_ne hle hmicros⟩
    · left
      cases hpa : a.isPrimary <;> cases hpb : b.isPrimary <;> simp_all
  · intro hover
    have hne : a ≠ b := by
      rintro rfl
      rcases hdiffer with hflag | hage <;> contradiction
    refine (before_or ha hb hne).resolve_right ?_
    intro hpair
    obtain ⟨hflag, hage⟩ := precedes_iff.mp (hsorted b a hpair)
    rcases hover with ⟨hpa, hpb⟩ | ⟨hsame, hlt⟩
    · rw [hflag hpa] at hpb
      cases hpb
    · exact absurd (hage hsame.symm) (Nat.not_le.mpr hlt)

end Ledger

/-! ### Events that leave the order alone -/

/-- An event that fails, or that adds the account of a row again, writes at most over that row, and neither its
flag nor its age changes. -/
theorem steady_next {s : Store} {e : Event} (hs : s.ledger.Sound)
    (he : e.Fails s ∨ ∃ a ∈ s.ledger.accounts, e.Adds a) :
    ∃ g : Account → Account, (e.next s).ledger.accounts = s.ledger.accounts.map g ∧
      ∀ a, (g a).id = a.id ∧ (g a).owner = a.owner ∧ (g a).isPrimary = a.isPrimary ∧
        (g a).createdAt = a.createdAt := by
  have hsame : (e.next s).ledger = s.ledger → ∃ g : Account → Account,
      (e.next s).ledger.accounts = s.ledger.accounts.map g ∧
        ∀ a, (g a).id = a.id ∧ (g a).owner = a.owner ∧ (g a).isPrimary = a.isPrimary ∧
          (g a).createdAt = a.createdAt := by
    intro hl
    exact ⟨id, by rw [hl, List.map_id], fun a => ⟨rfl, rfl, rfl, rfl⟩⟩
  rcases he with hfails | ⟨a, ha, c, courier, owner, form, given, draw, rfl, hn⟩
  · cases e with
    | call c a =>
      obtain ⟨f, hf⟩ := hfails
      exact hsame (undone_perform hf).ledger
    | signup c form =>
      obtain ⟨f, hf⟩ := hfails
      obtain ⟨-, hl⟩ | ⟨password, token, -, -, hok, -⟩ := enrol_cases c form s
      · exact hsame hl
      · rw [hok] at hf
        cases hf
  · -- Whether or not the addition succeeds, what it leaves of the row is known.
    let written : Account := a.reissued (Visit.issuance?
      { circumstances := c, action := .add courier owner form given draw, before := s })
    have hl : (Event.next s (.call c (.add courier owner form given draw))).ledger =
        s.ledger.overwrite written := add_reissues hs ha hn
    have hwritten : written.id = a.id ∧ written.owner = a.owner ∧ written.isPrimary = a.isPrimary ∧
        written.createdAt = a.createdAt := by
      simp only [written]
      cases Visit.issuance? _ <;> exact ⟨rfl, rfl, rfl, rfl⟩
    refine ⟨fun b => if b = a then written else b, ?_, ?_⟩
    · rw [hl, Ledger.overwrite_of_mem hs ha hwritten.1]
    · intro b
      by_cases hb : b = a
      · simp only [if_pos hb]
        rw [hb]
        exact hwritten
      · simp only [if_neg hb, and_self]

theorem listed_before_next {s : Store} {e : Event} {a b : Account} {owner : Uuid}
    (hs : s.ledger.Sound) (he : e.Fails s ∨ ∃ a ∈ s.ledger.accounts, e.Adds a)
    (ha : a ∈ s.ledger.listing owner) (hb : b ∈ s.ledger.listing owner)
    (hdiffer : a.isPrimary ≠ b.isPrimary ∨ a.createdAt ≠ b.createdAt) :
    Before (((e.next s).ledger.listing owner).map (·.id)) a.id b.id ↔
      Before ((s.ledger.listing owner).map (·.id)) a.id b.id := by
  obtain ⟨g, hrows, hg⟩ := steady_next hs he
  have hlisted : ∀ x ∈ s.ledger.listing owner, g x ∈ (e.next s).ledger.listing owner := by
    intro x hx
    obtain ⟨hx, ho⟩ := Ledger.mem_listing.mp hx
    rw [Ledger.mem_listing, hrows]
    exact ⟨List.mem_map_of_mem hx, (hg x).2.1.trans ho⟩
  obtain ⟨haid, -, haflag, haage⟩ := hg a
  obtain ⟨hbid, -, hbflag, hbage⟩ := hg b
  have hafter := Ledger.listed_before_iff (sound_next hs e) (hlisted a ha) (hlisted b hb)
    (by rwa [haflag, hbflag, haage, hbage])
  rw [haid, hbid] at hafter
  rw [hafter, Ledger.listed_before_iff hs ha hb hdiffer, Account.Outranks, haflag, hbflag, haage, hbage]
  rfl

/-- After every history, listing gives each row of the user once and no other, and leaves everything as it is.
No row that is not primary stands before a primary one, and of two rows with the same flag no older one stands
before the newer. A user with a verified account finds the primary one first, which is verified, and no other is
primary. The order of two rows that differ in flag or age stands when an event fails, and when an account that is
there is added again. Where the reading fails, so does the listing, and that is all. -/
theorem listings_in_order (events : List Event) (owner : Uuid) :
    let s := after events
    ∃ rows, (∀ c : Circumstances, c.mishaps .read = none → Operation.list c owner s =
        { store := s, log := [], handovers := [], posted := [], result := .ok rows }) ∧
      (∀ (c : Circumstances) (f : Failure), c.mishaps .read = some f → Operation.list c owner s =
        { store := s, log := [], handovers := [], posted := [], result := .error f }) ∧
      rows.Nodup ∧ (∀ a, a ∈ rows ↔ a ∈ s.ledger.accounts ∧ a.owner = owner) ∧
      (rows.Pairwise fun a b => (b.isPrimary = true → a.isPrimary = true) ∧
        (a.isPrimary = b.isPrimary → b.createdAt ≤ a.createdAt)) ∧
      ((∃ a ∈ s.ledger.accounts, a.owner = owner ∧ a.isVerified = true) →
        ∃ first rest, rows = first :: rest ∧ first.isPrimary = true ∧ first.isVerified = true ∧
          ∀ b ∈ rest, b.isPrimary = false) ∧
      ∀ e : Event, e.Fails s ∨ (∃ a ∈ s.ledger.accounts, e.Adds a) →
        ∃ rows', (∀ c : Circumstances, c.mishaps .read = none →
            (Operation.list c owner (e.next s)).result = .ok rows') ∧
          ∀ a ∈ rows, ∀ b ∈ rows, a.isPrimary ≠ b.isPrimary ∨ a.createdAt ≠ b.createdAt →
            (Before (rows'.map (·.id)) a.id b.id ↔ Before (rows.map (·.id)) a.id b.id) := by
  intro s
  have hs : s.ledger.Sound := sound_after events
  refine ⟨s.ledger.listing owner, fun c hm => list_read hm, fun c f hm => list_failed hm,
    Ledger.nodup_listing hs owner, fun a => Ledger.mem_listing, ?_, ?_, ?_⟩
  · exact (Ledger.sorted_listing s.ledger owner).imp Ledger.precedes_iff.mp
  · intro hverified
    obtain ⟨first, hfirst, ho, hp⟩ := Ledger.exists_primary (led_after events) hverified
    obtain ⟨rest, hrows, hrest⟩ := Ledger.listing_led hs hfirst ho hp
    exact ⟨first, rest, hrows, hp, hs.verified first hfirst hp, hrest⟩
  · intro e he
    refine ⟨(e.next s).ledger.listing owner, fun c hm => by rw [list_read hm]; rfl, ?_⟩
    intro a ha b hb hdiffer
    exact listed_before_next hs he ha hb hdiffer

end PayoutRegistry
