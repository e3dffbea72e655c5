import PayoutRegistry.Proofs.History
import PayoutRegistry.Proofs.Identifiers

/-!
The log tells the state. Each call that changes accounts writes one line of success, and whoever reads these
lines in order, and of each line only what it shows, knows which accounts there are, which of them are verified
and which is primary.
-/
namespace PayoutRegistry

theorem Uuid.text_inj {id id' : Uuid} : id.text = id'.text ↔ id = id' := by
  constructor
  · intro h
    have hsame := congrArg Uuid.ofLoose? h
    rw [Uuid.ofLoose?_text, Uuid.ofLoose?_text] at hsame
    exact Option.some.inj hsame
  · intro h
    rw [h]

/-- What is known of an account. -/
structure Entry where
  owner : String
  id : String
  isVerified : Bool
  isPrimary : Bool
deriving DecidableEq, Repr

def Account.entry (a : Account) : Entry :=
  { owner := a.owner.text, id := a.id.text, isVerified := a.isVerified, isPrimary := a.isPrimary }

/-- What a line of success tells. -/
inductive Tale where
  | issued (owner id : String) (reused : Bool)
  | verified (owner id : String) (isPrimary : Bool)
  | promoted (owner id : String)
  | deleted (owner id : String)
deriving DecidableEq, Repr

namespace LogRecord

def shownText? (r : LogRecord) (key : String) : Option String :=
  match Json.Fields.get? r.shownExtras key with
  | some (.text s) => some s
  | _ => none

def shownFlag? (r : LogRecord) (key : String) : Option Bool :=
  match Json.Fields.get? r.shownExtras key with
  | some (.bool b) => some b
  | _ => none

/-- What a line tells by its message and the fields that it shows, if it is one of success. -/
def tale? (r : LogRecord) : Option Tale :=
  if r.logger = Operation.logger ∧ r.level = 20 then do
    let owner ← r.shownText? "user_id"
    let id ← r.shownText? "account_id"
    match r.message with
    | "Verification code issued" => return .issued owner id (← r.shownFlag? "reused")
    | "Bank account verified" => return .verified owner id (← r.shownFlag? "is_primary")
    | "Primary bank account changed" => return .promoted owner id
    | "Bank account deleted" => return .deleted owner id
    | _ => none
  else none

end LogRecord

namespace Entry

/-- What is known after one more tale. -/
def hear (entries : List Entry) : Tale → List Entry
  | .issued owner id reused =>
    if reused then entries else entries ++ [{ owner, id, isVerified := false, isPrimary := false }]
  | .verified _ id isPrimary =>
    entries.map fun x => if x.id = id then { x with isVerified := true, isPrimary } else x
  | .promoted owner id =>
    entries.map fun x => if x.owner = owner then { x with isPrimary := decide (x.id = id) } else x
  | .deleted _ id => entries.filter (·.id ≠ id)

/-- What is known from a log. -/
def replay (log : List LogRecord) : List Entry := (log.filterMap LogRecord.tale?).foldl hear []

end Entry

namespace Action

/-- The tale of a call that was given an answer. -/
def tale? (s : Store) : Action → Answer → Option Tale
  | .add _ owner form _ _, .issued i =>
    some (.issued owner.id.text i.id.text (s.ledger.registered? owner.id form.number form.bankCode).isSome)
  | .verify owner id _, .verified v => some (.verified owner.text id.text v.isPrimary)
  | .promote owner id, _ => some (.promoted owner.text id.text)
  | .delete owner id, _ => some (.deleted owner.text id.text)
  | _, _ => none

/-- The courier of a call does not speak for the operations. -/
def Quiet : Action → Prop
  | .add courier .. => ∀ email code, Silent (courier email code).log
  | _ => True

end Action

/-- The tale of a call that was made, if it succeeded. -/
def Visit.tale? (v : Visit) : Option Tale :=
  match v.outcome.result with
  | .ok x => v.action.tale? v.before x
  | .error _ => none

/-- What an event writes; signing up is not logged. -/
def Event.log (s : Store) : Event → List LogRecord
  | .call c a => (a.perform c s).log
  | .signup .. => []

/-- The log of a history, from its beginning. -/
def audit : List Event → List LogRecord
  | [] => []
  | e :: past => audit past ++ e.log (after past)

/-! ### Lines -/

section Lines

variable {r : LogRecord} {log : List LogRecord} {owner id : Uuid} {b : Bool}

theorem tellsSuccess_of_tale? {t : Tale} (h : r.tale? = some t) : r.TellsSuccess := by
  have hmem : ∀ m ∈ LogRecord.successes, r.message = m → r.message ∈ LogRecord.successes :=
    fun m hm hsame => hsame ▸ hm
  simp only [LogRecord.tale?] at h
  split at h
  · rename_i hspeaks
    obtain ⟨owner, -, h⟩ := Option.bind_eq_some_iff.mp h
    obtain ⟨id, -, h⟩ := Option.bind_eq_some_iff.mp h
    refine ⟨hspeaks.1, ?_⟩
    split at h
    · rename_i hissued
      exact hmem _ (by decide) hissued
    · rename_i hverified
      exact hmem _ (by decide) hverified
    · rename_i hpromoted
      exact hmem _ (by decide) hpromoted
    · rename_i hdeleted
      exact hmem _ (by decide) hdeleted
    · cases h
  · cases h

theorem tales_silent (h : Silent log) : log.filterMap LogRecord.tale? = [] := by
  refine List.filterMap_eq_nil_iff.mpr fun r hr => ?_
  cases ht : r.tale? with
  | none => rfl
  | some t => exact absurd (tellsSuccess_of_tale? ht) (h r hr)

/-- In a log, one line tells of a success and all others are silent. -/
def ToldBy (log : List LogRecord) (t : Tale) : Prop :=
  ∃ before r after, log = before ++ r :: after ∧ Silent before ∧ Silent after ∧ r.TellsSuccess ∧
    r.tale? = some t

theorem ToldBy.tales {t : Tale} (h : ToldBy log t) : log.filterMap LogRecord.tale? = [t] := by
  obtain ⟨before, r, after, rfl, hbefore, hafter, -, ht⟩ := h
  rw [List.filterMap_append, tales_silent hbefore, List.nil_append, List.filterMap_cons, ht,
    tales_silent hafter]

theorem filter_silent (h : Silent log) : log.filter (fun r => r.TellsSuccess) = [] :=
  List.filter_eq_nil_iff.mpr fun r hr => by simpa using h r hr

theorem ToldBy.lines {t : Tale} (h : ToldBy log t) :
    (log.filter fun r => r.TellsSuccess).map LogRecord.tale? = [some t] := by
  obtain ⟨before, r, after, rfl, hbefore, hafter, hr, ht⟩ := h
  rw [List.filter_append, filter_silent hbefore, List.nil_append, List.filter_cons_of_pos (by simpa using hr),
    filter_silent hafter, List.map_singleton, ht]

theorem tale?_issued :
    (Operation.note "Verification code issued" owner id [("reused", .bool b)]).tale? =
      some (.issued owner.text id.text b) := rfl

theorem tale?_verified :
    (Operation.note "Bank account verified" owner id [("is_primary", .bool b)]).tale? =
      some (.verified owner.text id.text b) := rfl

theorem tale?_promoted : (Operation.note "Primary bank account changed" owner id []).tale? =
    some (.promoted owner.text id.text) := rfl

theorem tale?_deleted : (Operation.note "Bank account deleted" owner id []).tale? =
    some (.deleted owner.text id.text) := rfl

end Lines

/-! ### One call -/

section Calls

variable {c : Circumstances} {s : Store} {a : Action} {x : Answer} {l : Ledger}

/-- What is known after a row was overwritten, if `f` tells the new row from the old one. -/
theorem map_entry_overwrite {b b' : Account} {f : Entry → Entry} (h : l.Sound) (hb : b ∈ l.accounts)
    (hid : b'.id = b.id) (hf : f b.entry = b'.entry)
    (hothers : ∀ other : Account, other.id ≠ b.id → f other.entry = other.entry) :
    (l.accounts.map Account.entry).map f = (l.overwrite b').accounts.map Account.entry := by
  simp only [Ledger.overwrite, List.map_map]
  refine List.map_congr_left fun other hmem => ?_
  by_cases hsame : other.id = b.id
  · obtain rfl := h.eq_of_id hmem hb hsame
    simp [hid, hf]
  · simp [hid, hsame, hothers other hsame]

/-- What a call that succeeds does to the accounts is what its tale says. -/
theorem hear_accepted (h : s.ledger.Sound) (ha : Accepted c s a x l) :
    (a.tale? s x).toList.foldl Entry.hear (s.ledger.accounts.map Account.entry) =
      l.accounts.map Account.entry := by
  cases ha with
  | @refresh _ _ form _ draw a t found waiting due =>
    obtain ⟨hmem, -⟩ := Ledger.registered?_some found
    simp only [Action.tale?, found, Option.isSome_some, Option.toList_some, List.foldl_cons, List.foldl_nil,
      Entry.hear, ↓reduceIte]
    refine (List.map_id _).symm.trans (map_entry_overwrite h hmem rfl ?_ fun _ _ => rfl)
    simp [Operation.refreshed, Account.entry, waiting]
  | @insert _ owner form _ draw t absent free due =>
    simp only [Action.tale?, absent, Option.isSome_none, Option.toList_some, List.foldl_cons, List.foldl_nil,
      Entry.hear, Bool.false_eq_true, ↓reduceIte, Ledger.extended, List.map_append]
    rfl
  | @verify owner id _ a found waiting code written due =>
    obtain ⟨hmem, rfl, rfl⟩ := Ledger.owned?_some found
    simp only [Action.tale?, Option.toList_some, List.foldl_cons, List.foldl_nil, Entry.hear]
    refine map_entry_overwrite h hmem rfl ?_ fun other hother => ?_
    · simp [admitted, Operation.verified, Account.entry]
    · simp [Account.entry, Uuid.text_inj, hother]
  | @promote owner id a found proved =>
    obtain ⟨hmem, rfl, rfl⟩ := Ledger.owned?_some found
    simp only [Action.tale?, Option.toList_some, List.foldl_cons, List.foldl_nil, Entry.hear,
      Ledger.promoted, Ledger.rewritten, List.map_map]
    refine List.map_congr_left fun b _ => ?_
    by_cases howner : b.owner = a.owner <;> simp [Account.entry, Uuid.text_inj, howner]
  | @delete owner id a found spare =>
    simp only [Action.tale?, Option.toList_some, List.foldl_cons, List.foldl_nil, Entry.hear,
      Ledger.without, List.filter_map]
    congr 1
    refine List.filter_congr fun b _ => ?_
    simp [Account.entry, Uuid.text_inj]
  | list => rfl

theorem toldBy_ofAttempt {α β : Type} {m : Mishaps} {limit : Binary64} {judge : Ledger → Decision}
    {line : LogRecord} {r : Ledger → α} {g : α → β} {b : β} {t : Tale} (hj : Silent (judge s.ledger).log)
    (hline : line.TellsSuccess) (ht : line.tale? = some t)
    (h : ((Outcome.ofAttempt (s.attempt m limit judge) line r).map g).result = .ok b) :
    ToldBy ((Outcome.ofAttempt (s.attempt m limit judge) line r).map g).log t := by
  obtain ⟨_, h, -⟩ := map_eq_ok.mp h
  rw [ofAttempt_result] at h
  obtain ⟨⟨⟩, hres, -⟩ := map_eq_ok.mp h
  refine ⟨(s.attempt m limit judge).log, line, [], ?_, silent_attempt hj, silent_nil, hline, ht⟩
  simp only [Outcome.map, Outcome.ofAttempt, hres]

theorem silent_warnings (owner id : Uuid) (result : Except Failure Unit) :
    Silent (match result with
      | .ok () => []
      | .error f => [Operation.undelivered owner id f]) := by
  cases result with
  | ok => exact silent_nil
  | error f =>
    intro r hr hs
    obtain rfl := List.mem_singleton.mp hr
    exact absurd hs.2 (by change "Failed to deliver verification code" ∉ LogRecord.successes; decide)

/-- A call that changes accounts tells so in one line, once it has succeeded. -/
theorem toldBy_perform (hquiet : a.Quiet) (hr : (a.perform c s).result = .ok x) :
    (∃ owner, a = .list owner) ∨ ∃ t, a.tale? s x = some t ∧ ToldBy (a.perform c s).log t := by
  cases a with
  | add courier owner form given draw =>
    obtain ⟨i, hi, rfl⟩ := map_eq_ok.mp hr
    obtain ⟨t, ht, hok⟩ := add_ok hi
    rw [add_succeeded courier ht hok] at hi
    obtain rfl := Except.ok.inj hi
    have hlog : (Operation.add c courier owner form given draw s).log = _ :=
      congrArg Outcome.log (add_succeeded courier ht hok)
    exact .inr ⟨_, rfl, (addAttempt c owner form draw t s).log, _, _, hlog,
      silent_attempt silent_decideAdd,
      silent_append (hquiet _ _) (silent_warnings owner.id (addedId owner form s) _),
      tellsSuccess_note (by decide), tale?_issued⟩
  | verify owner id submitted =>
    obtain ⟨v, hv, rfl⟩ := map_eq_ok.mp hr
    obtain ⟨steps, -, -, rfl⟩ := ofAttempt_ok hv
    exact .inr ⟨_, rfl, toldBy_ofAttempt silent_decideVerify (tellsSuccess_note (by decide)) tale?_verified hr⟩
  | promote owner id =>
    exact .inr ⟨_, rfl, toldBy_ofAttempt silent_decidePromote (tellsSuccess_note (by decide)) tale?_promoted hr⟩
  | delete owner id =>
    exact .inr ⟨_, rfl, toldBy_ofAttempt silent_decideDelete (tellsSuccess_note (by decide)) tale?_deleted hr⟩
  | list owner => exact .inl ⟨owner, rfl⟩

theorem log_list (owner : Uuid) : (Action.perform c s (.list owner)).log = [] := by
  obtain ⟨result, h⟩ := @list_eq c s owner
  rw [Action.perform, Outcome.map, h]

/-- The log of a call that succeeds tells its tale, if it has one, and nothing else. -/
theorem tales_perform (hquiet : a.Quiet) (hr : (a.perform c s).result = .ok x) :
    (a.perform c s).log.filterMap LogRecord.tale? = (a.tale? s x).toList := by
  obtain ⟨owner, rfl⟩ | ⟨t, ht, htold⟩ := toldBy_perform hquiet hr
  · rw [log_list]
    rfl
  · rw [htold.tales, ht]
    rfl

/-- No way of delivery speaks for the operations. -/
theorem quiet_send (way : Delivery) (reply : Reply) (owner : Owner) (form : AccountForm) (given : Option Int)
    (draw : Nat) : (Action.add (way.send reply) owner form given draw).Quiet := by
  intro email code
  refine silent_of_logger fun r hr => ?_
  have hlogger : r.logger = Mailer.logger := by
    cases way with
    | unspecified => cases hr
    | withheld =>
      obtain rfl := List.mem_singleton.mp hr
      rfl
    | mail m =>
      simp only [Delivery.send, Mailer.send] at hr
      split at hr
      · cases reply with
        | fault f => cases hr
        | unsent f => cases hr
        | answer status body =>
          cases hstatus : isSuccess status
          · simp [hstatus] at hr
          · obtain rfl : r = _ := by simpa [hstatus] using hr
            rfl
      · cases hr
  rw [hlogger]
  decide

end Calls

/-! ### Histories -/

namespace Visit

variable {v : Visit}

theorem tale?_of_ok {x : Answer} (h : v.outcome.result = .ok x) : v.tale? = v.action.tale? v.before x := by
  simp only [tale?, h]

theorem tale?_of_error {f : Failure} (h : v.outcome.result = .error f) : v.tale? = none := by
  simp only [tale?, h]

/-- The log of a call tells the tale of the call, if it has one. -/
theorem told (hquiet : v.action.Quiet) :
    v.tale? = none ∧ Silent v.outcome.log ∧ v.outcome.store.ledger = v.before.ledger ∨
      ∃ t, v.tale? = some t ∧ ToldBy v.outcome.log t := by
  cases hr : v.outcome.result with
  | error f => exact .inl ⟨tale?_of_error hr, (undone_perform hr).silent, (undone_perform hr).ledger⟩
  | ok x =>
    rw [tale?_of_ok hr]
    obtain ⟨owner, hlist⟩ | h := toldBy_perform hquiet hr
    · rw [outcome, hlist, log_list]
      refine .inl ⟨rfl, silent_nil, ?_⟩
      rw [Action.perform, Outcome.map, list_store]
    · exact .inr h

theorem isSome_tale?_iff (hquiet : v.action.Quiet) :
    v.tale?.isSome ↔ (∃ x, v.outcome.result = .ok x) ∧ ∀ owner, v.action ≠ .list owner := by
  constructor
  · intro h
    cases hr : v.outcome.result with
    | error f =>
      rw [tale?_of_error hr] at h
      cases h
    | ok x =>
      refine ⟨⟨x, rfl⟩, ?_⟩
      intro owner hlist
      rw [tale?_of_ok hr, hlist] at h
      cases h
  · rintro ⟨⟨x, hr⟩, hchanges⟩
    rw [tale?_of_ok hr]
    obtain ⟨owner, hlist⟩ | ⟨t, ht, -⟩ := toldBy_perform hquiet hr
    · exact absurd hlist (hchanges owner)
    · rw [ht]
      rfl

/-- A call is told by its log: one line of success, with its tale, if it is one that changes accounts and
succeeds; otherwise no such line, and nothing changes. -/
structure Told (v : Visit) : Prop where
  lines : (v.outcome.log.filter fun r => r.TellsSuccess).map LogRecord.tale? = v.tale?.toList.map some
  succeeds : v.tale?.isSome ↔ (∃ x, v.outcome.result = .ok x) ∧ ∀ owner, v.action ≠ .list owner
  unchanged : v.tale? = none → v.outcome.store.ledger = v.before.ledger

theorem told_of_quiet (hquiet : v.action.Quiet) : v.Told := by
  refine ⟨?_, isSome_tale?_iff hquiet, ?_⟩
  · obtain ⟨ht, hsilent, -⟩ | ⟨t, ht, htold⟩ := told hquiet
    · rw [ht, filter_silent hsilent]
      rfl
    · rw [ht, htold.lines]
      rfl
  · intro hnone
    obtain ⟨-, -, hsame⟩ | ⟨t, ht, -⟩ := told hquiet
    · exact hsame
    · rw [hnone] at ht
      cases ht

end Visit

/-- What an event does to the accounts is what its log tells. -/
theorem hear_next {s : Store} {e : Event} (h : s.ledger.Sound)
    (hquiet : ∀ c a, e = .call c a → a.Quiet) :
    ((e.log s).filterMap LogRecord.tale?).foldl Entry.hear (s.ledger.accounts.map Account.entry) =
      (e.next s).ledger.accounts.map Account.entry := by
  cases e with
  | signup c form =>
    rw [Event.next, signup_accounts]
    rfl
  | call c a =>
    rw [Event.next, Event.log]
    cases hr : (a.perform c s).result with
    | error f =>
      rw [tales_silent (undone_perform hr).silent, (undone_perform hr).ledger]
      rfl
    | ok x => rw [tales_perform (hquiet c a rfl) hr, hear_accepted h (perform_accepted h hr)]

theorem replay_append (log log' : List LogRecord) :
    Entry.replay (log ++ log') = (log'.filterMap LogRecord.tale?).foldl Entry.hear (Entry.replay log) := by
  rw [Entry.replay, List.filterMap_append, List.foldl_append, Entry.replay]

/-- Replaying the log of a history gives its accounts, in the order in which they were added. -/
theorem replay_audit (events : List Event) (hquiet : ∀ c a, Event.call c a ∈ events → a.Quiet) :
    Entry.replay (audit events) = (after events).ledger.accounts.map Account.entry := by
  induction events with
  | nil => rfl
  | cons e past ih =>
    have hpast := ih fun c a hmem => hquiet c a (List.mem_cons_of_mem e hmem)
    rw [audit, replay_append, hpast, after]
    exact hear_next (sound_after past) fun c a he => hquiet c a (he ▸ List.mem_cons_self)

theorem call_of_mem_visits {v : Visit} {events : List Event} (h : v ∈ visits events) :
    Event.call v.circumstances v.action ∈ events := by
  fun_induction visits events with
  | case1 => cases h
  | case2 c a past ih =>
    obtain rfl | h := List.mem_cons.mp h
    · exact List.mem_cons_self
    · exact List.mem_cons_of_mem _ (ih h)
  | case3 c form past ih => exact List.mem_cons_of_mem _ (ih h)

/-- The log of any history, read from its beginning, gives each user's accounts, in the order in which they
were added, with what is verified and what is primary. Of its lines, those of success are one for each call
that changed accounts, and none for any other. -/
theorem log_replays_accounts (events : List Event) (hquiet : ∀ c a, Event.call c a ∈ events → a.Quiet) :
    (∀ owner : Uuid, (Entry.replay (audit events)).filter (·.owner = owner.text) =
        ((after events).ledger.ownedBy owner).map Account.entry) ∧
      ∀ v ∈ visits events, v.Told := by
  constructor
  · intro owner
    rw [replay_audit events hquiet, List.filter_map]
    refine congrArg (List.map _) (List.filter_congr fun a _ => ?_)
    simp [Account.entry, Uuid.text_inj]
  · intro v hv
    exact Visit.told_of_quiet (hquiet _ _ (call_of_mem_visits hv))

/-- A user has one account verified, adds another, gets its code wrong, and deletes it. -/
theorem one_account_replayed :
    let owner : Uuid := .ofSerial 9
    let events := .call default (.delete owner (.ofSerial 2)) ::
      .call default (.verify owner (.ofSerial 2) "000000") :: adding owner "9876543210" 0 ::
      joined owner "0123456789" 1
    (∀ c a, Event.call c a ∈ events → a.Quiet) ∧
      (Entry.replay (audit events)).filter (·.owner = owner.text) =
        [{ owner := owner.text, id := (Uuid.ofSerial 1).text, isVerified := true, isPrimary := true }] ∧
      (visits events).map (fun v => v.tale?.isSome) = [true, false, true, true, true] := by
  intro owner events
  have hquiet : ∀ c a, Event.call c a ∈ events → a.Quiet := by
    intro c a he
    simp only [events, adding, joined, List.mem_cons, List.not_mem_nil, or_false] at he
    rcases he with ⟨⟨⟩⟩ | ⟨⟨⟩⟩ | ⟨⟨⟩⟩ | ⟨⟨⟩⟩ | ⟨⟨⟩⟩
    · trivial
    · trivial
    · exact quiet_send _ _ _ _ _ _
    · trivial
    · exact quiet_send _ _ _ _ _ _
  refine ⟨hquiet, ?_, by decide +kernel⟩
  rw [(log_replays_accounts events hquiet).1 owner]
  decide +kernel

end PayoutRegistry
