import PayoutRegistry.Proofs.Primary

/-!
The payout account of a user. Once a user has one there is always one, and only the user moves it, to the
account that is named in a promotion that succeeds.
-/
namespace PayoutRegistry

/-- The identifiers of the primary accounts of a user. -/
def Ledger.primaries (l : Ledger) (owner : Uuid) : List Uuid :=
  ((l.ownedBy owner).filter (·.isPrimary)).map (·.id)

/-- The account that a call asks to make the primary one of a user. -/
def Action.promotes? (owner : Uuid) : Action → Option Uuid
  | .promote o id => if o = owner then some id else none
  | _ => none

/-- The account that a visit makes the primary one of a user: the one it names, if it succeeds. -/
def Visit.promotes? (owner : Uuid) (v : Visit) : Option Uuid :=
  match v.outcome.result with
  | .ok _ => v.action.promotes? owner
  | .error _ => none

namespace Ledger

variable {l : Ledger} {a b : Account} {owner : Uuid}

theorem primaries_eq (h : l.Sound) (ha : a ∈ l.accounts) (hp : a.isPrimary = true) :
    l.primaries a.owner = [a.id] := by
  have hle := h.primaries_le_one a.owner
  have hm : a ∈ (l.ownedBy a.owner).filter (·.isPrimary) :=
    List.mem_filter.mpr ⟨mem_ownedBy.mpr ⟨ha, rfl⟩, hp⟩
  rw [List.countP_eq_length_filter] at hle
  simp only [primaries]
  generalize (l.ownedBy a.owner).filter (·.isPrimary) = rows at hle hm
  cases rows with
  | nil => cases hm
  | cons b rows =>
    have hrows : rows = [] := List.eq_nil_of_length_eq_zero (by simpa using hle)
    subst hrows
    rw [List.mem_singleton.mp hm]
    rfl

theorem exists_primary (h : l.Led) (hv : ∃ a ∈ l.accounts, a.owner = owner ∧ a.isVerified = true) :
    ∃ b ∈ l.accounts, b.owner = owner ∧ b.isPrimary = true := by
  obtain ⟨a, ha, rfl, hav⟩ := hv
  exact h a ha hav

end Ledger

section Steps

variable {c : Circumstances} {s : Store} {a : Action} {x : Answer} {l : Ledger} {b : Account}

/-- A call that succeeds leaves a primary account to whoever has one: the same, or the one they name. -/
theorem primary_accepted (hs : s.ledger.Sound) (ha : Accepted c s a x l) (hb : b ∈ s.ledger.accounts)
    (hp : b.isPrimary = true) : ∃ d ∈ l.accounts, d.owner = b.owner ∧ d.isPrimary = true ∧
      d.id = (a.promotes? b.owner).getD b.id := by
  have hkept : b ∈ l.accounts → a.promotes? b.owner = none → ∃ d ∈ l.accounts,
      d.owner = b.owner ∧ d.isPrimary = true ∧ d.id = (a.promotes? b.owner).getD b.id := by
    intro hbl hn
    exact ⟨b, hbl, rfl, hp, by rw [hn]; rfl⟩
  cases ha with
  | refresh found waiting _ =>
    obtain ⟨hm, -⟩ := Ledger.registered?_some found
    have hne := hs.id_ne_of_primary hm (hs.not_primary hm waiting) hb hp
    exact hkept (Ledger.mem_overwrite.mpr (Or.inr ⟨hb, hne⟩)) rfl
  | insert _ _ _ => exact hkept (Ledger.mem_extended.mpr (Or.inl hb)) rfl
  | verify found waiting _ _ _ =>
    obtain ⟨hm, -⟩ := Ledger.owned?_some found
    have hne := hs.id_ne_of_primary hm (hs.not_primary hm waiting) hb hp
    exact hkept (Ledger.mem_overwrite.mpr (Or.inr ⟨hb, hne⟩)) rfl
  | @promote owner id e found proved =>
    obtain ⟨hm, rfl, rfl⟩ := Ledger.owned?_some found
    by_cases ho : e.owner = b.owner
    · have hnew : { e with isPrimary := true, updatedAt := c.now } ∈
          (s.ledger.promoted e c.now).accounts :=
        Ledger.mem_rewritten.mpr (Or.inr ⟨e, hm, rfl, by simp⟩)
      exact ⟨_, hnew, ho, rfl, by simp [Action.promotes?, ho]⟩
    · have hbl : b ∈ (s.ledger.promoted e c.now).accounts :=
        Ledger.mem_rewritten.mpr (Or.inl ⟨hb, Ne.symm ho⟩)
      exact hkept hbl (by simp [Action.promotes?, ho])
  | delete found spare =>
    obtain ⟨hm, -, rfl⟩ := Ledger.owned?_some found
    exact hkept (Ledger.mem_without.mpr ⟨hb, hs.id_ne_of_primary hm spare hb hp⟩) rfl
  | list => exact hkept hb rfl

/-- A call, be it successful or not, leaves a primary account to whoever has one. -/
theorem primary_visit (hs : s.ledger.Sound) (hb : b ∈ s.ledger.accounts) (hp : b.isPrimary = true) :
    ∃ d ∈ (a.perform c s).store.ledger.accounts, d.owner = b.owner ∧ d.isPrimary = true ∧
      d.id = (Visit.promotes? b.owner { circumstances := c, action := a, before := s }).getD b.id := by
  simp only [Visit.promotes?, Visit.outcome]
  cases hr : (a.perform c s).result with
  | ok x => exact primary_accepted hs (perform_accepted hs hr) hb hp
  | error f =>
    rw [(undone_perform hr).ledger]
    exact ⟨b, hb, rfl, hp, rfl⟩

end Steps

/-- What comes later adds visits to those of a history, and may move a primary account by them. -/
theorem primary_after (later earlier : List Event) {b : Account}
    (hb : b ∈ (after earlier).ledger.accounts) (hp : b.isPrimary = true) :
    ∃ recent, visits (later ++ earlier) = recent ++ visits earlier ∧
      ∃ d ∈ (after (later ++ earlier)).ledger.accounts, d.owner = b.owner ∧ d.isPrimary = true ∧
        d.id = (recent.findSome? (Visit.promotes? b.owner)).getD b.id := by
  induction later with
  | nil => exact ⟨[], rfl, b, hb, rfl, hp, rfl⟩
  | cons e later ih =>
    obtain ⟨recent, hvs, d, hd, hdo, hdp, hid⟩ := ih
    cases e with
    | call c a =>
      let v : Visit := { circumstances := c, action := a, before := after (later ++ earlier) }
      obtain ⟨d', hd', hdo', hdp', hid'⟩ :=
        primary_visit (c := c) (a := a) (sound_after (later ++ earlier)) hd hdp
      refine ⟨v :: recent, congrArg (v :: ·) hvs, d', hd', hdo'.trans hdo, hdp', ?_⟩
      rw [hid', hdo, hid, List.findSome?_cons]
      cases Visit.promotes? b.owner v <;> rfl
    | signup c form =>
      have ha : (after (.signup c form :: (later ++ earlier))).ledger.accounts = _ := signup_accounts
      exact ⟨recent, hvs, d, ha ▸ hd, hdo, hdp, hid⟩

/-- From when a user has a verified account on, the user has exactly one primary account, which is
verified. It is the same at all later times, but for the promotions by this user that succeed: after these
it is the account that the latest of them names. -/
theorem payout_continues (earlier later : List Event) (owner : Uuid)
    (h : ∃ a ∈ (after earlier).ledger.accounts, a.owner = owner ∧ a.isVerified = true) :
    ∃ payee recent, (after earlier).ledger.primaries owner = [payee] ∧
      visits (later ++ earlier) = recent ++ visits earlier ∧
      (after (later ++ earlier)).ledger.primaries owner =
        [(recent.findSome? (Visit.promotes? owner)).getD payee] ∧
      ∃ a ∈ (after (later ++ earlier)).ledger.accounts, a.owner = owner ∧ a.isPrimary = true ∧
        a.isVerified = true := by
  obtain ⟨b, hb, rfl, hp⟩ := Ledger.exists_primary (led_after earlier) h
  obtain ⟨recent, hvs, d, hd, hdo, hdp, hid⟩ := primary_after later earlier hb hp
  have hs := sound_after (later ++ earlier)
  refine ⟨b.id, recent, Ledger.primaries_eq (sound_after earlier) hb hp, hvs, ?_, d, hd, hdo, hdp,
    hs.verified d hd hdp⟩
  rw [← hid, ← hdo, Ledger.primaries_eq hs hd hdp]

/-- A second account is promoted, and an attempt to delete it after that is in vain. -/
theorem second_account_stays :
    let owner : Uuid := .ofSerial 9
    let earlier := joined owner "0123456789" 1
    let later := .call default (.delete owner (.ofSerial 2)) ::
      .call default (.promote owner (.ofSerial 2)) :: joined owner "9876543210" 2
    (∃ a ∈ (after earlier).ledger.accounts, a.owner = owner ∧ a.isVerified = true) ∧
      (∃ payee recent, (after earlier).ledger.primaries owner = [payee] ∧
        visits (later ++ earlier) = recent ++ visits earlier ∧
        (after (later ++ earlier)).ledger.primaries owner =
          [(recent.findSome? (Visit.promotes? owner)).getD payee]) ∧
      (after earlier).ledger.primaries owner = [.ofSerial 1] ∧
      (after (later ++ earlier)).ledger.primaries owner = [.ofSerial 2] := by
  intro owner earlier later
  have h : ∃ a ∈ (after earlier).ledger.accounts, a.owner = owner ∧ a.isVerified = true := by
    decide +kernel
  obtain ⟨payee, recent, hbefore, hvs, hafter, -⟩ := payout_continues earlier later owner h
  exact ⟨h, ⟨payee, recent, hbefore, hvs, hafter⟩, by decide +kernel, by decide +kernel⟩

end PayoutRegistry
