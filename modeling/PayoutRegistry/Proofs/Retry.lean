import PayoutRegistry.Proofs.Rollback

/-!
Calls that are made again after they failed. The store differs from the one before at most in the serial
number, since numbers that were used up stay used up. So the call comes to what it would have come to in
the first place, but for the number of an account that is new.
-/
namespace PayoutRegistry

/-- Whether a call can bring in an account. -/
def Action.adds : Action → Bool
  | .add .. => true
  | _ => false

/-- The ledger in which one identifier stands for another. -/
def Ledger.renumbered (l : Ledger) (old new : Uuid) : Ledger :=
  { l with accounts := l.accounts.map fun a => if a.id = old then { a with id := new } else a }

/-- The answer in which one identifier of an account stands for another. -/
def Answer.renumbered (old new : Uuid) : Answer → Answer
  | .issued i => .issued { i with id := if i.id = old then new else i.id }
  | x => x

/-- A second outcome that is a first one over again. The stores may give different numbers next. -/
structure Same (o o' : Outcome Answer) : Prop where
  result : o'.result = o.result
  ledger : o'.store.ledger = o.store.ledger
  log : o'.log = o.log
  handovers : o'.handovers = o.handovers
  posted : o'.posted = o.posted

/-- A second outcome that differs from a first one at most in the number that a new account got. -/
structure Renumbered (old new : Uuid) (o o' : Outcome Answer) : Prop where
  result : o'.result = o.result.map (Answer.renumbered old new)
  ledger : o'.store.ledger = o.store.ledger.renumbered old new
  handovers : o'.handovers = o.handovers
  posted : o'.posted = o.posted

/-- Two numbers are not taken in a store: the one that it gives next, and the one that another gives. -/
structure Store.Ready (s s' : Store) : Prop where
  next : s.ledger.Free s.nextId
  later : s.ledger.Free s'.nextId

section Renumbering

variable {l : Ledger} {a : Account} {old : Uuid}

end Renumbering

/-! ### Pairs of calls on one ledger -/

section Pairs

variable {c : Circumstances} {s s' : Store}

section Adding

variable {l : Ledger} {m : Mishaps} {owner old new : Uuid} {form : AccountForm} {code : String}
  {t now : Instant}

end Adding

end Pairs

/-- A call comes to the same on two stores, but for the number of an account that is new. -/
def Action.Alike (a : Action) (s s' : Store) : Prop :=
  ∀ c : Circumstances, (a.adds = false → Same (a.perform c s) (a.perform c s')) ∧
    (a.adds = true → s.Ready s' → Renumbered s.nextId s'.nextId (a.perform c s) (a.perform c s'))

end PayoutRegistry
