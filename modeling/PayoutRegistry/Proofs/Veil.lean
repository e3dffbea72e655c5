import PayoutRegistry.Code
import PayoutRegistry.Proofs.UnitOfWork

/-!
Codes out of sight. In a veiled store one code stands for all of them, and everything else is as it was.
Work on a veiled store comes to what it comes to on the store itself, veiled.
-/
namespace PayoutRegistry

/-- The code that stands for all others. An empty one, which nobody can submit, is kept apart. -/
def Code.veil (code : String) : String := if code = "" then "" else Code.ofDraw 0

/-! ### Veils -/

def Account.veiled (a : Account) : Account := { a with code := a.code.map Code.veil }

def Ledger.veiled (l : Ledger) : Ledger := { l with accounts := l.accounts.map Account.veiled }

def Store.veiled (s : Store) : Store := { s with ledger := s.ledger.veiled }

@[simp] def Statement.veiled : Statement → Statement
  | .insert a => .insert a.veiled
  | .update a => .update a.veiled
  | s => s

@[simp] def Step.veiled : Step → Step
  | .flush statements => .flush (statements.map Statement.veiled)
  | s => s

def Draft.veiled (d : Draft) : Draft :=
  { d with ledger := d.ledger.veiled, sent := d.sent.map Statement.veiled }

def Session.veiled (s : Session) : Session := { lasting := s.lasting.veiled, draft := s.draft.veiled }

def Pending.veiled {α : Type} (p : Pending Failure α) : Pending Failure α :=
  { p with session := p.session.veiled }

def Decision.veiled (d : Decision) : Decision :=
  { d with verdict := d.verdict.map (List.map Step.veiled) }

def Attempt.veiled (a : Attempt Failure) : Attempt Failure := { a with session := a.session.veiled }

namespace Account

variable (a : Account)

@[simp] theorem deadline_veiled : a.veiled.deadline = a.deadline := rfl

@[simp] theorem code_veiled : a.veiled.code = a.code.map Code.veil := rfl

end Account

namespace Decision

@[simp] theorem refuse_veiled (r : Refusal) (log : List LogRecord) :
    (refuse r log).veiled = refuse r log := rfl

@[simp] theorem take_veiled (steps : List Step) : (take steps).veiled = take (steps.map Step.veiled) := rfl

end Decision

theorem Code.ofDraw_ne_empty (draw : Nat) : Code.ofDraw draw ≠ "" := by
  intro h
  have hdigits : (toString (Code.least + draw)).toList = "".toList := congrArg String.toList h
  rw [Nat.toString_eq_repr, Nat.toList_repr] at hdigits
  exact Nat.toDigits_ne_nil hdigits

theorem Code.veil_of_ne {code : String} (h : code ≠ "") : Code.veil code = Code.ofDraw 0 := if_neg h

theorem Code.veil_veil (code : String) : Code.veil (Code.veil code) = Code.veil code := by
  by_cases h : code = ""
  · rw [h]
    rfl
  · rw [veil_of_ne h, veil_of_ne (ofDraw_ne_empty 0)]

theorem Account.veiled_veiled (a : Account) : a.veiled.veiled = a.veiled := by
  simp only [veiled, Option.map_map, Function.comp_def, Code.veil_veil]

theorem Ledger.veiled_veiled (l : Ledger) : l.veiled.veiled = l.veiled := by
  simp only [veiled, List.map_map, Function.comp_def, Account.veiled_veiled]

theorem Store.veiled_veiled (s : Store) : s.veiled.veiled = s.veiled := by
  simp only [veiled, Ledger.veiled_veiled]

theorem Statement.veiled_veiled (s : Statement) : s.veiled.veiled = s.veiled := by
  cases s <;> simp only [veiled, Account.veiled_veiled]

namespace Attempt

variable (a : Attempt Failure)

@[simp] theorem result_veiled : a.veiled.result = a.result := rfl

@[simp] theorem log_veiled : a.veiled.log = a.log := rfl

@[simp] theorem ledger_veiled : a.veiled.store.ledger = a.store.ledger.veiled := rfl

@[simp] theorem store_veiled : a.veiled.store.veiled = a.store.veiled := a.store.veiled_veiled

end Attempt

/-! ### Rows -/

namespace Ledger

variable {l : Ledger} {owner id : Uuid} {a : Account}

end Ledger

namespace Work

variable {m : Mishaps} {w w' : Work Failure Unit} {k k' : Unit → Work Failure Unit}

/-- The second work does to a veiled draft what the first one does to the draft. -/
def Veils (w w' : Work Failure Unit) : Prop :=
  ∀ d : Draft, w'.on d.veiled = ((w.on d).1, (w.on d).2.veiled)

theorem Veils.bind (hw : w.Veils w') (hk : (k ()).Veils (k' ())) : (w >>= k).Veils (w' >>= k') := by
  intro d
  rw [on_bind, on_bind, hw d]
  rcases w.on d with ⟨f | ⟨⟩, d'⟩
  · rfl
  · exact hk d'

end Work

/-! ### Stores -/

variable {m : Mishaps} {s : Store}

end PayoutRegistry
