import PayoutRegistry.Ledger.Statement
import Mathlib.Data.List.Pairwise

/-! What the constraints of the account table say, and what single writes do to its rows. -/
namespace PayoutRegistry

/-- A row that says of the same account of the same user something else. -/
structure Account.Revises (a b : Account) : Prop where
  id : a.id = b.id
  owner : a.owner = b.owner
  number : a.number = b.number
  bankCode : a.bankCode = b.bankCode

namespace Ledger

/-- The constraints of the table hold of all rows together. -/
structure Sound (l : Ledger) : Prop where
  apart : l.accounts.Pairwise fun a b => compatible a b = true
  verified : ∀ a ∈ l.accounts, a.isPrimary = true → a.isVerified = true

/-- No row has the identifier. -/
def Free (l : Ledger) (id : Uuid) : Prop := ∀ a ∈ l.accounts, a.id ≠ id

/-- The ledger with a row in the place of the one with its identifier. -/
def overwrite (l : Ledger) (a : Account) : Ledger :=
  { l with accounts := l.accounts.map fun b => if b.id = a.id then a else b }

/-- The ledger with all rows of a user rewritten. -/
def rewritten (l : Ledger) (owner : Uuid) (g : Account → Account) : Ledger :=
  { l with accounts := l.accounts.map fun b => if b.owner = owner then g b else b }

/-- The ledger in which no account of the user is primary. -/
def cleared (l : Ledger) (owner : Uuid) (now : Instant) : Ledger :=
  l.rewritten owner fun b => { b with isPrimary := false, updatedAt := now }

/-- The ledger in which one account of its user is primary, and no other. -/
def promoted (l : Ledger) (a : Account) (now : Instant) : Ledger :=
  l.rewritten a.owner fun b => { b with isPrimary := decide (b.id = a.id), updatedAt := now }

/-- The ledger with one more row. -/
def extended (l : Ledger) (a : Account) : Ledger := { l with accounts := l.accounts ++ [a] }

/-- The ledger without a row. -/
def without (l : Ledger) (id : Uuid) : Ledger :=
  { l with accounts := l.accounts.filter (·.id ≠ id) }

variable {l l' : Ledger} {a b c : Account} {o owner id : Uuid} {now : Instant}
  {g : Account → Account}

theorem compatible_iff : compatible a b = true ↔
    a.id ≠ b.id ∧ ¬(a.owner = b.owner ∧ a.number = b.number ∧ a.bankCode = b.bankCode) ∧
      ¬(a.owner = b.owner ∧ a.isPrimary = true ∧ b.isPrimary = true) := by
  simp only [compatible, Bool.and_eq_true, Bool.not_eq_true', Bool.and_eq_false_iff,
    decide_eq_true_eq, decide_eq_false_iff_not]
  grind

theorem compatible_symm (h : compatible a b = true) : compatible b a = true := by
  rw [compatible_iff] at h ⊢
  grind

instance : Std.Symm fun a b : Account => compatible a b = true where
  symm _ _ := compatible_symm

theorem fits_iff {others : List Account} : fits a others = true ↔
    (a.isPrimary = true → a.isVerified = true) ∧ ∀ b ∈ others, compatible a b = true := by
  simp only [fits, Bool.and_eq_true, Bool.or_eq_true, Bool.not_eq_true', List.all_eq_true]
  grind

/-! ### Rows of a sound table -/

theorem sound_empty : Sound Ledger.empty where
  apart := List.Pairwise.nil
  verified := by intro a ha; cases ha

namespace Sound

theorem compatible (h : Sound l) (ha : a ∈ l.accounts) (hb : b ∈ l.accounts) (hne : a ≠ b) :
    compatible a b = true :=
  h.apart.forall ha hb hne

theorem eq_of_id (h : Sound l) (ha : a ∈ l.accounts) (hb : b ∈ l.accounts)
    (hid : a.id = b.id) : a = b := by
  by_contra hne
  exact (compatible_iff.mp (h.compatible ha hb hne)).1 hid

theorem not_primary (h : Sound l) (ha : a ∈ l.accounts) (hv : a.isVerified = false) :
    a.isPrimary = false := by
  cases hp : a.isPrimary with
  | false => rfl
  | true => simp [h.verified a ha hp] at hv

/-- The primary row of a user is not the one that is written over or deleted. -/
theorem id_ne_of_primary (h : Sound l) (ha : a ∈ l.accounts) (hpa : a.isPrimary = false)
    (hb : b ∈ l.accounts) (hpb : b.isPrimary = true) : b.id ≠ a.id := by
  intro hid
  obtain rfl := h.eq_of_id hb ha hid
  rw [hpa] at hpb
  cases hpb

end Sound

/-! ### Finding rows -/

theorem mem_ownedBy : a ∈ l.ownedBy o ↔ a ∈ l.accounts ∧ a.owner = o := by
  simp [ownedBy]

theorem owned?_some (h : l.owned? o id = some a) : a ∈ l.accounts ∧ a.owner = o ∧ a.id = id := by
  obtain ⟨hm, ho⟩ := mem_ownedBy.mp (List.mem_of_find?_eq_some h)
  exact ⟨hm, ho, by simpa using List.find?_some h⟩

theorem owned?_of_mem (h : Sound l) (ha : a ∈ l.accounts) : l.owned? a.owner a.id = some a := by
  cases hf : l.owned? a.owner a.id with
  | none =>
    have := List.find?_eq_none.mp hf a (mem_ownedBy.mpr ⟨ha, rfl⟩)
    simp at this
  | some b =>
    obtain ⟨hb, -, hid⟩ := owned?_some hf
    rw [h.eq_of_id hb ha hid]

theorem account?_some (h : l.account? id = some a) : a ∈ l.accounts ∧ a.id = id :=
  ⟨List.mem_of_find?_eq_some h, by simpa using List.find?_some h⟩

theorem account?_of_mem (h : Sound l) (ha : a ∈ l.accounts) : l.account? a.id = some a := by
  cases hf : l.account? a.id with
  | none =>
    have := List.find?_eq_none.mp hf a ha
    simp at this
  | some b =>
    obtain ⟨hb, hid⟩ := account?_some hf
    rw [h.eq_of_id hb ha hid]

theorem registered?_some {number bankCode : String}
    (h : l.registered? o number bankCode = some a) :
    a ∈ l.accounts ∧ a.owner = o ∧ a.number = number ∧ a.bankCode = bankCode := by
  obtain ⟨hm, ho⟩ := mem_ownedBy.mp (List.mem_of_find?_eq_some h)
  have hk := List.find?_some h
  exact ⟨hm, ho, by simpa using hk⟩

theorem registered?_none {number bankCode : String}
    (h : l.registered? o number bankCode = none) (ha : a ∈ l.accounts) (ho : a.owner = o) :
    ¬(a.number = number ∧ a.bankCode = bankCode) := by
  have := List.find?_eq_none.mp h a (mem_ownedBy.mpr ⟨ha, ho⟩)
  simpa using this

theorem registered?_eq_none {number bankCode : String} : l.registered? o number bankCode = none ↔
    ∀ a ∈ l.accounts, ¬(a.owner = o ∧ a.number = number ∧ a.bankCode = bankCode) := by
  simp only [registered?, ownedBy, List.find?_eq_none, List.mem_filter, decide_eq_true_eq, and_imp,
    not_and]

theorem registered?_of_mem (h : Sound l) (ha : a ∈ l.accounts) :
    l.registered? a.owner a.number a.bankCode = some a := by
  cases hf : l.registered? a.owner a.number a.bankCode with
  | none => exact absurd ⟨rfl, rfl⟩ (registered?_none hf ha rfl)
  | some b =>
    obtain ⟨hb, hkey⟩ := registered?_some hf
    by_contra hne
    have hab : b ≠ a := fun hba => hne (congrArg some hba)
    exact (compatible_iff.mp (h.compatible hb ha hab)).2.1 hkey

theorem verifiedCount_eq_zero :
    l.verifiedCount o = 0 ↔ ∀ a ∈ l.accounts, a.owner = o → a.isVerified = false := by
  simp only [verifiedCount, List.countP_eq_zero, mem_ownedBy]
  grind

/-! ### Writing rows -/

theorem mem_overwrite : b ∈ (l.overwrite a).accounts ↔
    (b = a ∧ ∃ c ∈ l.accounts, c.id = a.id) ∨ (b ∈ l.accounts ∧ b.id ≠ a.id) := by
  simp only [overwrite, List.mem_map]
  constructor
  · rintro ⟨c, hc, rfl⟩
    by_cases hid : c.id = a.id
    · simp only [hid, ↓reduceIte]
      exact Or.inl ⟨trivial, c, hc, hid⟩
    · simp only [hid, ↓reduceIte]
      exact Or.inr ⟨hc, hid⟩
  · rintro (⟨rfl, c, hc, hid⟩ | ⟨hb, hid⟩)
    · exact ⟨c, hc, by simp [hid]⟩
    · exact ⟨b, hb, by simp [hid]⟩

/-- Writing over a row of a sound table leaves all other rows alone. -/
theorem overwrite_of_mem (h : Sound l) (hb : b ∈ l.accounts) (hid : a.id = b.id) :
    l.overwrite a = { l with accounts := l.accounts.map fun c => if c = b then a else c } := by
  simp only [overwrite]
  congr 1
  refine List.map_congr_left ?_
  intro c hc
  have hsame : c.id = a.id ↔ c = b := by
    constructor
    · intro hca
      exact h.eq_of_id hc hb (hca.trans hid)
    · rintro rfl
      exact hid.symm
  simp only [hsame]

/-- Of two rows with one identifier that are written, the later one stays. -/
theorem overwrite_overwrite (hid : b.id = a.id) : (l.overwrite a).overwrite b = l.overwrite b := by
  simp only [overwrite, List.map_map]
  congr 1
  refine List.map_congr_left ?_
  intro c _
  by_cases hc : c.id = a.id <;> simp [hc, hid]

theorem overwrite_self (h : Sound l) (ha : a ∈ l.accounts) : l.overwrite a = l := by
  rw [overwrite_of_mem h ha rfl]
  congr 1
  refine (List.map_congr_left ?_).trans (List.map_id' l.accounts)
  intro c _
  split
  · rename_i hc
    exact hc.symm
  · rfl

theorem mem_rewritten : b ∈ (l.rewritten owner g).accounts ↔
    (b ∈ l.accounts ∧ b.owner ≠ owner) ∨ ∃ c ∈ l.accounts, c.owner = owner ∧ g c = b := by
  simp only [rewritten, List.mem_map]
  constructor
  · rintro ⟨c, hc, rfl⟩
    by_cases ho : c.owner = owner
    · simp only [ho, ↓reduceIte]
      exact Or.inr ⟨c, hc, ho, rfl⟩
    · simp only [ho, ↓reduceIte]
      exact Or.inl ⟨hc, ho⟩
  · rintro (⟨hb, ho⟩ | ⟨c, hc, ho, rfl⟩)
    · exact ⟨b, hb, by simp [ho]⟩
    · exact ⟨c, hc, by simp [ho]⟩

theorem mem_extended : b ∈ (l.extended a).accounts ↔ b ∈ l.accounts ∨ b = a := by
  simp [extended]

theorem mem_without : b ∈ (l.without id).accounts ↔ b ∈ l.accounts ∧ b.id ≠ id := by
  simp [without]

theorem sound_overwrite (h : Sound l)
    (hf : fits a (l.accounts.filter (·.id ≠ a.id)) = true) : Sound (l.overwrite a) := by
  obtain ⟨hv, hc⟩ := fits_iff.mp hf
  have hbeside : ∀ b ∈ l.accounts, b.id ≠ a.id → compatible a b = true :=
    fun b hb hid => hc b (by simpa using ⟨hb, hid⟩)
  constructor
  · refine List.pairwise_map.mpr (h.apart.imp_of_mem ?_)
    intro x y hx hy hxy
    -- Two different rows cannot both have the identifier that is written over.
    have hne : x.id ≠ y.id := (compatible_iff.mp hxy).1
    by_cases hxa : x.id = a.id
    · have hya : y.id ≠ a.id := fun he => hne (hxa.trans he.symm)
      simpa [hxa, hya] using hbeside y hy hya
    · by_cases hya : y.id = a.id
      · simpa [hxa, hya] using compatible_symm (hbeside x hx hxa)
      · simpa [hxa, hya] using hxy
  · intro b hb hp
    rcases mem_overwrite.mp hb with ⟨rfl, -⟩ | ⟨hb, -⟩
    · exact hv hp
    · exact h.verified b hb hp

theorem sound_extended (h : Sound l) (hf : fits a l.accounts = true) : Sound (l.extended a) := by
  obtain ⟨hv, hc⟩ := fits_iff.mp hf
  constructor
  · refine List.pairwise_append.mpr ⟨h.apart, List.pairwise_singleton _ _, ?_⟩
    intro b hb c hca
    rw [List.mem_singleton.mp hca]
    exact compatible_symm (hc b hb)
  · intro b hb hp
    rcases mem_extended.mp hb with hb | rfl
    · exact h.verified b hb hp
    · exact hv hp

theorem sound_without (h : Sound l) : Sound (l.without id) where
  apart := h.apart.filter _
  verified b hb := h.verified b (mem_without.mp hb).1

theorem sound_cleared (h : Sound l) : Sound (l.cleared owner now) := by
  constructor
  · refine List.pairwise_map.mpr (h.apart.imp ?_)
    intro x y hxy
    rw [compatible_iff] at hxy ⊢
    split <;> split <;> grind
  · intro b hb hp
    rcases mem_rewritten.mp hb with ⟨hb, -⟩ | ⟨c, hc, -, rfl⟩
    · exact h.verified b hb hp
    · simp at hp

/-- Clearing all rows of the user and then setting one is promoting it. -/
theorem overwrite_cleared (h : Sound l) (ha : a ∈ l.accounts) :
    (l.cleared a.owner now).overwrite { a with isPrimary := true, updatedAt := now } =
      l.promoted a now := by
  simp only [overwrite, cleared, promoted, rewritten, List.map_map]
  congr 1
  refine List.map_congr_left ?_
  intro b hb
  by_cases hid : b.id = a.id
  · obtain rfl := h.eq_of_id hb ha hid
    simp
  · by_cases ho : b.owner = a.owner <;> simp [hid, ho]

/-! ### Statements that are taken in -/

theorem execute_update (hf : fits a (l.accounts.filter (·.id ≠ a.id)) = true) :
    l.execute (.update a) = .ok (l.overwrite a) := by
  simp only [execute, replace]
  rw [if_pos hf]
  rfl

theorem execute_insert (hf : fits a l.accounts = true) :
    l.execute (.insert a) = .ok (l.extended a) := by
  simp only [execute]
  rw [if_pos hf]
  rfl

/-- All that a new user changes is the list of users. -/
theorem eq_of_insertUser {u : User} (h : l.execute (.insertUser u) = .ok l') :
    l' = { l with users := l.users ++ [u] } := by
  simp only [execute] at h
  split at h
  · exact (Except.ok.inj h).symm
  · cases h

/-- A row fits in the place of one that it revises. -/
theorem fits_revision (h : Sound l) (hb : b ∈ l.accounts) (hr : a.Revises b)
    (hp : a.isPrimary = true → a.isVerified = true ∧
      ∀ c ∈ l.accounts, c.owner = a.owner → c.id ≠ a.id → c.isPrimary = false) :
    fits a (l.accounts.filter (·.id ≠ a.id)) = true := by
  refine fits_iff.mpr ⟨fun h => (hp h).1, ?_⟩
  intro c hc
  obtain ⟨hc, hid⟩ : c ∈ l.accounts ∧ c.id ≠ a.id := by simpa using hc
  have hbc := compatible_iff.mp (h.compatible hb hc (by rintro rfl; exact hid hr.id.symm))
  refine compatible_iff.mpr ⟨hid.symm, ?_, ?_⟩
  · rw [hr.owner, hr.number, hr.bankCode]
    exact hbc.2.1
  · rintro ⟨ho, hpa, hpc⟩
    rw [(hp hpa).2 c hc ho.symm hid] at hpc
    cases hpc

/-- Clearing goes row by row; `rows` are those that are left to do. -/
theorem foldlM_clear (now : Instant) (rows : List Account) (l : Ledger) (h : Sound l)
    (hd : rows.Pairwise (·.id ≠ ·.id)) (hr : ∀ a ∈ rows, a ∈ l.accounts) :
    rows.foldlM (fun l a => l.replace { a with isPrimary := false, updatedAt := now }) l =
      .ok { l with accounts := l.accounts.map fun b =>
        if b ∈ rows then { b with isPrimary := false, updatedAt := now } else b } := by
  induction rows generalizing l with
  | nil => simp [pure, Except.pure]
  | cons a rows ih =>
    obtain ⟨hda, hd⟩ := List.pairwise_cons.mp hd
    have ha := hr a List.mem_cons_self
    let a' : Account := { a with isPrimary := false, updatedAt := now }
    have hf : fits a' (l.accounts.filter (·.id ≠ a'.id)) = true :=
      fits_revision h ha ⟨rfl, rfl, rfl, rfl⟩ (by simp [a'])
    have hrest : ∀ b ∈ rows, b ∈ (l.overwrite a').accounts := by
      intro b hb
      exact mem_overwrite.mpr (Or.inr ⟨hr b (List.mem_cons_of_mem _ hb), (hda b hb).symm⟩)
    have hone : l.replace a' = .ok (l.overwrite a') := execute_update hf
    rw [List.foldlM_cons, hone]
    change List.foldlM _ (l.overwrite a') rows = _
    rw [ih _ (sound_overwrite h hf) hd hrest]
    simp only [overwrite, List.map_map]
    congr 2
    refine List.map_congr_left ?_
    intro b hb
    by_cases hba : b = a
    · subst hba
      have : a' ∉ rows := fun hm => hda a' hm rfl
      simp [a', this]
    · have hid : b.id ≠ a.id := fun he => hba (h.eq_of_id hb ha he)
      simp [a', hid, hba]

theorem execute_clearPrimary (h : Sound l) :
    l.execute (.clearPrimary owner now) = .ok (l.cleared owner now) := by
  have hd : (l.ownedBy owner).Pairwise (·.id ≠ ·.id) :=
    (h.apart.imp fun hc => (compatible_iff.mp hc).1).filter _
  simp only [execute]
  rw [foldlM_clear now _ l h hd fun a ha => (mem_ownedBy.mp ha).1]
  simp only [cleared, rewritten]
  congr 2
  refine List.map_congr_left ?_
  intro b hb
  simp [mem_ownedBy, hb]

theorem sound_replace (h : Sound l) (hr : l.replace a = .ok l') : Sound l' := by
  simp only [replace] at hr
  split at hr
  · rename_i hf
    cases hr
    exact sound_overwrite h hf
  · cases hr

theorem sound_execute {s : Statement} (h : Sound l) (he : l.execute s = .ok l') : Sound l' := by
  cases s with
  | insertUser u | updateUser u =>
    simp only [execute] at he
    split at he
    · cases he
      exact ⟨h.apart, h.verified⟩
    · cases he
  | insert a =>
    simp only [execute] at he
    split at he
    · rename_i hf
      cases he
      exact sound_extended h hf
    · cases he
  | update a => exact sound_replace h he
  | clearPrimary owner now =>
    rw [execute_clearPrimary h] at he
    cases he
    exact sound_cleared h
  | remove id =>
    cases he
    exact sound_without h

/-! ### Finding rows after a write -/

theorem account?_overwrite : (l.overwrite a).account? id =
    (l.account? id).map fun b => if b.id = a.id then a else b := by
  have hid : ∀ b : Account, (if b.id = a.id then a else b).id = b.id := by
    intro b
    split
    · rename_i hb
      exact hb.symm
    · rfl
  simp only [account?, overwrite, List.find?_map, Function.comp_def, hid]

theorem account?_rewritten (hg : ∀ b, (g b).id = b.id) : (l.rewritten owner g).account? id =
    (l.account? id).map fun b => if b.owner = owner then g b else b := by
  have hid : ∀ b : Account, (if b.owner = owner then g b else b).id = b.id := by
    intro b
    split
    · exact hg b
    · rfl
  simp only [account?, rewritten, List.find?_map, Function.comp_def, hid]

theorem account?_extended (hf : l.Free a.id) : (l.extended a).account? id =
    if a.id = id then some a else l.account? id := by
  simp only [account?, extended, List.find?_append]
  split
  · rename_i hid
    have : l.accounts.find? (fun c => decide (c.id = id)) = none :=
      List.find?_eq_none.mpr fun b hb => by simpa [← hid] using hf b hb
    simp [this, hid]
  · rename_i hid
    simp [hid]

theorem account?_overwritten (h : Sound l) (hb : b ∈ l.accounts) (hid : a.id = b.id) :
    (l.overwrite a).account? b.id = some a := by
  rw [account?_overwrite, account?_of_mem h hb, Option.map_some, if_pos hid.symm]

theorem account?_promoted (h : Sound l) (ha : a ∈ l.accounts) (now : Instant) :
    (l.promoted a now).account? a.id = some { a with isPrimary := true, updatedAt := now } := by
  have hid : ∀ b : Account,
      { b with isPrimary := decide (b.id = a.id), updatedAt := now }.id = b.id := fun _ => rfl
  rw [promoted, account?_rewritten hid, account?_of_mem h ha, Option.map_some, if_pos rfl, decide_eq_true rfl]

theorem account?_added (hf : l.Free a.id) : (l.extended a).account? a.id = some a := by
  rw [account?_extended hf, if_pos rfl]

theorem account?_without (l : Ledger) (i id : Uuid) : (l.without i).account? id =
    if i = id then none else l.account? id := by
  split
  · rename_i hid
    refine List.find?_eq_none.mpr fun b hb => ?_
    simpa [hid] using (mem_without.mp hb).2
  · rename_i hid
    simp only [account?, without, List.find?_filter]
    congr 1
    funext b
    by_cases hb : b.id = id
    · simp [hb, Ne.symm hid]
    · simp [hb]

/-! ### What a user has after a write -/

theorem map_eq_self {rows : List Account} (h : ∀ c ∈ rows, g c = c) : rows.map g = rows :=
  (List.map_congr_left (g := fun c => c) h).trans (List.map_id' rows)

theorem ownedBy_overwrite (h : Sound l) (hb : b ∈ l.accounts) (hr : a.Revises b) (o : Uuid) :
    (l.overwrite a).ownedBy o = (l.ownedBy o).map fun c => if c.id = a.id then a else c := by
  simp only [ownedBy, overwrite, List.filter_map]
  congr 1
  refine List.filter_congr ?_
  intro c hc
  by_cases hid : c.id = a.id
  · obtain rfl : c = b := h.eq_of_id hc hb (hid.trans hr.id)
    simp [hr.id, hr.owner]
  · simp [hid]

theorem ownedBy_overwrite_other (h : Sound l) (hb : b ∈ l.accounts) (hr : a.Revises b)
    (ho : o ≠ b.owner) : (l.overwrite a).ownedBy o = l.ownedBy o := by
  rw [ownedBy_overwrite h hb hr]
  refine map_eq_self ?_
  intro c hc
  obtain ⟨hc, hco⟩ := mem_ownedBy.mp hc
  have hid : c.id ≠ a.id := by
    intro hid
    rw [h.eq_of_id hc hb (hid.trans hr.id)] at hco
    exact ho hco.symm
  simp [hid]

theorem ownedBy_rewritten (hg : ∀ b, (g b).owner = b.owner) (o : Uuid) :
    (l.rewritten owner g).ownedBy o =
      (l.ownedBy o).map fun b => if b.owner = owner then g b else b := by
  simp only [ownedBy, rewritten, List.filter_map]
  congr 1
  refine List.filter_congr ?_
  intro c _
  by_cases hc : c.owner = owner <;> simp [hc, hg]

theorem ownedBy_rewritten_other (hg : ∀ b, (g b).owner = b.owner) (ho : o ≠ owner) :
    (l.rewritten owner g).ownedBy o = l.ownedBy o := by
  rw [ownedBy_rewritten hg]
  refine map_eq_self ?_
  intro c hc
  have hne : c.owner ≠ owner := (mem_ownedBy.mp hc).2 ▸ ho
  simp [hne]

theorem ownedBy_extended (l : Ledger) (a : Account) (o : Uuid) :
    (l.extended a).ownedBy o = l.ownedBy o ++ if a.owner = o then [a] else [] := by
  by_cases h : a.owner = o <;> simp [ownedBy, extended, h]

theorem ownedBy_without (l : Ledger) (id o : Uuid) :
    (l.without id).ownedBy o = (l.ownedBy o).filter (·.id ≠ id) := by
  simp [ownedBy, without, Bool.and_comm]

theorem ownedBy_without_other (h : Sound l) (ha : a ∈ l.accounts) (ho : o ≠ a.owner) :
    (l.without a.id).ownedBy o = l.ownedBy o := by
  rw [ownedBy_without, List.filter_eq_self]
  intro c hc
  obtain ⟨hc, hco⟩ := mem_ownedBy.mp hc
  have : c.id ≠ a.id := by
    intro hid
    rw [h.eq_of_id hc ha hid] at hco
    exact ho hco.symm
  simpa using this

/-- Verifying one row makes the user's verified rows one more. -/
theorem verifiedCount_overwrite (h : Sound l) (hb : b ∈ l.accounts) (hr : a.Revises b)
    (hbv : b.isVerified = false) (hav : a.isVerified = true) :
    (l.overwrite a).verifiedCount a.owner = l.verifiedCount a.owner + 1 := by
  have hd : (l.ownedBy a.owner).Pairwise (·.id ≠ ·.id) :=
    (h.apart.imp fun hc => (compatible_iff.mp hc).1).filter _
  have hmem : b ∈ l.ownedBy a.owner := mem_ownedBy.mpr ⟨hb, hr.owner.symm⟩
  obtain ⟨before, after, heq⟩ := List.append_of_mem hmem
  rw [heq, List.pairwise_append, List.pairwise_cons] at hd
  -- No other row of the user has the identifier, so nothing else is written over.
  have hkeep : ∀ rows : List Account, (∀ c ∈ rows, c.id ≠ b.id) →
      rows.map (fun c => if c.id = a.id then a else c) = rows := by
    intro rows hne
    refine map_eq_self fun c hc => ?_
    simp [hr.id, hne c hc]
  simp only [verifiedCount]
  rw [ownedBy_overwrite h hb hr, heq, List.map_append, List.map_cons,
    hkeep before fun c hc => hd.2.2 c hc b List.mem_cons_self,
    hkeep after fun c hc => (hd.2.1.1 c hc).symm]
  simp [hr.id, hbv, hav]
  omega

end Ledger

end PayoutRegistry
