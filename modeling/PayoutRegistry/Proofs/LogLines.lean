import PayoutRegistry.Log.Basic
import PayoutRegistry.Proofs.JsonGrammar
import PayoutRegistry.Proofs.PlainText
import Mathlib.Data.List.Basic

/-!
Log lines in the structured form. Whatever a record holds, its line is one JSON object without control
characters, which is read back as what the record is to tell, so no text in a record can be taken for a line
or a field of its own.
-/
namespace PayoutRegistry

namespace Log

/-- How the value of an extra field is told. -/
inductive Told : Json → Json → Prop
  | bool (b : Bool) : Told (.bool b) (.bool b)
  | int (n : Int) : Told (.int n) (.int n)
  | plain {v : Json} {s : String} (hbool : ∀ b, v ≠ .bool b) (hint : ∀ n, v ≠ .int n)
      (h : Json.IsPlain v s) : Told v (.text s)

/-- Of the fields with the given keys those are shown that are there and not `null`, in this order. -/
inductive Shows (extras : Json.Fields) : List String → Json.Fields → Prop
  | nil : Shows extras [] []
  | absent {key : String} {keys : List String} {shown : Json.Fields}
      (h : Json.Fields.get? extras key = none) (more : Shows extras keys shown) :
      Shows extras (key :: keys) shown
  | null {key : String} {keys : List String} {shown : Json.Fields}
      (h : Json.Fields.get? extras key = some .null) (more : Shows extras keys shown) :
      Shows extras (key :: keys) shown
  | present {key : String} {v w : Json} {keys : List String} {shown : Json.Fields}
      (h : Json.Fields.get? extras key = some v) (hv : v ≠ .null) (told : Told v w)
      (more : Shows extras keys shown) : Shows extras (key :: keys) ((key, w) :: shown)

end Log

namespace LogRecord

/-- No number among the shown fields has more digits than a reader takes. -/
def Sized (r : LogRecord) : Prop :=
  ∀ key ∈ Log.extraFields, ∀ n, Json.Fields.get? r.extras key = some (.int n) →
    (Nat.toDigits 10 n.natAbs).length ≤ 4300

/-- The line tells of the record, with the message that it is given: all that there is to tell, in order, and
nothing else. -/
structure ToldBy (r : LogRecord) (message : String) (at' : Instant) (line : String) : Prop where
  visible : ∀ c ∈ line.toList, 0x20 ≤ c.toNat
  isObject : Json.IsObject Json.isGap line.toList
  reads : ∃ shown exception, Json.read line = .ok (.object ([("timestamp", .text (Moment.utc at').text),
      ("level", .text (Log.levelName r.level)), ("logger", .text r.logger), ("message", .text message)] ++
      shown ++ exception)) ∧
    Log.Shows r.extras ["user_id", "account_id", "error_type", "is_primary", "reused"] shown ∧
    (r.failure = none → exception = []) ∧
    ∀ f, r.failure = some f → exception = [("exception", .text (r.trace ++ f.logText))]

end LogRecord

variable {r r' : LogRecord} {extras shown : Json.Fields} {keys : List String} {args : List Json}
  {message : String} {at' : Instant}

/-! ### The fields of a line -/

theorem Log.told_iff {v w : Json} : Log.Told v w ↔ w = Log.extraValue v := by
  constructor
  · intro h
    cases h with
    | bool b => rfl
    | int n => rfl
    | plain hbool hint h =>
      rw [Json.isPlain_iff.mp h]
      cases v with
      | bool b => exact absurd rfl (hbool b)
      | int n => exact absurd rfl (hint n)
      | _ => rfl
  · rintro rfl
    cases v with
    | bool b => exact .bool b
    | int n => exact .int n
    | _ => exact .plain nofun nofun (Json.isPlain_iff.mpr rfl)

/-- The fields that are shown of those with the given keys. -/
def Log.shownOf (extras : Json.Fields) (keys : List String) : Json.Fields :=
  keys.filterMap fun key =>
    match Json.Fields.get? extras key with
    | none | some .null => none
    | some v => some (key, Log.extraValue v)

theorem Log.shows_shownOf (extras : Json.Fields) (keys : List String) :
    Log.Shows extras keys (Log.shownOf extras keys) := by
  induction keys with
  | nil => exact .nil
  | cons key keys ih =>
    rw [Log.shownOf, List.filterMap_cons]
    cases hget : Json.Fields.get? extras key with
    | none => exact .absent hget ih
    | some v =>
      cases v with
      | null => exact .null hget ih
      | _ => exact .present hget nofun (Log.told_iff.mpr rfl) ih

/-- What is shown is determined. -/
theorem Log.shows_iff : Log.Shows extras keys shown ↔ shown = Log.shownOf extras keys := by
  constructor
  · intro h
    induction h with
    | nil => rfl
    | absent hget _ ih => rw [Log.shownOf, List.filterMap_cons, hget]; exact ih
    | null hget _ ih => rw [Log.shownOf, List.filterMap_cons, hget]; exact ih
    | @present key v w keys shown hget hv told _ ih =>
      rw [Log.told_iff.mp told, ih, Log.shownOf, Log.shownOf, List.filterMap_cons, hget]
      cases v with
      | null => exact absurd rfl hv
      | _ => rfl
  · rintro rfl
    exact Log.shows_shownOf extras keys

/-- Every field that is shown is asked for, once. -/
theorem Log.Shows.keys_sublist (h : Log.Shows extras keys shown) :
    (shown.map Prod.fst).Sublist keys := by
  induction h with
  | nil => exact .slnil
  | absent _ _ ih => exact ih.cons _
  | null _ _ ih => exact ih.cons _
  | present _ _ _ _ ih => exact ih.cons_cons _

theorem Log.Shows.faithful (h : Log.Shows extras keys shown)
    (hsize : ∀ key ∈ keys, ∀ n, Json.Fields.get? extras key = some (.int n) →
      (Nat.toDigits 10 n.natAbs).length ≤ 4300) : ∀ f ∈ shown, Json.Faithful f.2 := by
  induction h with
  | nil => exact nofun
  | absent _ _ ih => exact ih fun key hkey => hsize key (List.mem_cons_of_mem _ hkey)
  | null _ _ ih => exact ih fun key hkey => hsize key (List.mem_cons_of_mem _ hkey)
  | present hget _ told _ ih =>
    refine List.forall_mem_cons.mpr ⟨?_, ih fun key hkey => hsize key (List.mem_cons_of_mem _ hkey)⟩
    cases told with
    | bool b => exact .bool b
    | int n => exact .int n (hsize _ List.mem_cons_self n hget)
    | plain _ _ _ => exact .text _

namespace LogRecord

theorem shows_shownExtras (r : LogRecord) :
    Log.Shows r.extras ["user_id", "account_id", "error_type", "is_primary", "reused"] r.shownExtras :=
  Log.shows_shownOf r.extras Log.extraFields

/-- Only the listed fields count. -/
theorem shownExtras_congr
    (h : ∀ key ∈ Log.extraFields, Json.Fields.get? r.extras key = Json.Fields.get? r'.extras key) :
    r.shownExtras = r'.shownExtras := by
  refine List.filterMap_congr fun key hkey => ?_
  rw [h key hkey]

/-- No key comes twice in a line. -/
theorem nodup_fields (r : LogRecord) (at' : Instant) : ((r.fields at').map Prod.fst).Nodup := by
  have hshown := r.shows_shownExtras.keys_sublist
  have hexception : ((r.failure.toList.map fun f =>
      ("exception", Json.text (r.trace ++ f.logText))).map Prod.fst).Sublist ["exception"] := by
    cases r.failure with
    | none => exact List.nil_sublist _
    | some f => exact .refl _
  have hkeys := (List.Sublist.refl ["timestamp", "level", "logger", "message"]).append
    (hshown.append hexception)
  refine List.Nodup.sublist ?_ (show ["timestamp", "level", "logger", "message", "user_id", "account_id",
    "error_type", "is_primary", "reused", "exception"].Nodup by decide)
  simpa [fields] using hkeys

/-- The object of a line can be read back. -/
theorem faithful_fields (hsize : r.Sized) (at' : Instant) : Json.Faithful (.object (r.fields at')) := by
  refine .object _ (r.nodup_fields at') fun f hf => ?_
  simp only [fields, List.mem_append, List.mem_map] at hf
  obtain (hf | hf) | ⟨e, _, rfl⟩ := hf
  · simp only [List.mem_cons, List.not_mem_nil, or_false] at hf
    obtain rfl | rfl | rfl | rfl := hf <;> exact .text _
  · exact r.shows_shownExtras.faithful hsize f hf
  · exact .text _

theorem read_line (hsize : r.Sized) (at' : Instant) :
    Json.read (r.line at') = .ok (.object (r.fields at')) :=
  Json.read_print Json.Style.blank_spaced (faithful_fields hsize at')

/-- A line is printed by the grammar, whatever counts as a gap besides the blank. -/
theorem isObject_line (hsize : r.Sized) (at' : Instant) {gap : Char → Bool} (hgap : gap ' ' = true) :
    Json.IsObject gap (r.line at').toList := by
  have hblank : Json.IsBlank gap [' '] := List.forall_mem_singleton.mpr hgap
  refine Json.isObject_print hblank hblank fun f hf => ?_
  cases faithful_fields hsize at' with
  | object _ _ hfields => exact Json.isValue_print hblank hblank (hfields f hf)

theorem visible_line (hsize : r.Sized) (at' : Instant) : Json.Visible (r.line at').toList := by
  have hobject : Json.IsObject (· == ' ') (r.line at').toList := isObject_line hsize at' rfl
  refine hobject.visible fun c hc => ?_
  rw [beq_iff_eq.mp hc]
  decide

theorem toldBy_line (hsize : r.Sized) (at' : Instant) : r.ToldBy r.message at' (r.line at') where
  visible := visible_line hsize at'
  isObject := isObject_line hsize at' rfl
  reads := by
    refine ⟨r.shownExtras, _, read_line hsize at', r.shows_shownExtras, ?_, ?_⟩
    · intro hnone
      rw [hnone]
      rfl
    · intro f hsome
      rw [hsome]
      rfl

theorem lineWith_of_expand (r : LogRecord) (h : Log.expand r.message args = .ok message) (at' : Instant) :
    r.lineWith args at' = .ok ({ r with message }.line at') := by
  rw [lineWith, h]
  rfl

/-- The message can be told from the line. -/
theorem message_of_line_eq (hsize : r.Sized) (hsize' : r'.Sized) (h : r.line at' = r'.line at') :
    r.message = r'.message := by
  have hread := read_line hsize at'
  rw [h, read_line hsize' at'] at hread
  simp only [fields, List.cons_append, Except.ok.injEq, Json.object.injEq, List.cons.injEq, Prod.mk.injEq,
    Json.text.injEq] at hread
  exact hread.2.2.2.1.2.symm

/-- A line of the log cannot be forged by what a record holds. Whatever its logger, its level, its message,
its fields and its failure are, the line is one object on one line that tells the listed things and nothing
else. Fields that are not listed leave no trace in it, and at no instant is it the line of another message. -/
theorem line_unforgeable (hsize : r.Sized) (hmessage : Log.expand r.message args = .ok message)
    (at' : Instant) :
    ∃ line, r.lineWith args at' = .ok line ∧ r.ToldBy message at' line ∧
      (∀ extras, (∀ key ∈ ["user_id", "account_id", "error_type", "is_primary", "reused"],
          Json.Fields.get? extras key = Json.Fields.get? r.extras key) →
        { r with extras }.lineWith args at' = .ok line) ∧
      ∀ (r' : LogRecord) (args' : List Json) (message' : String), r'.Sized →
        Log.expand r'.message args' = .ok message' → message' ≠ message →
          r'.lineWith args' at' ≠ .ok line := by
  have hsize₁ : { r with message }.Sized := hsize
  have htold := toldBy_line hsize₁ at'
  refine ⟨_, lineWith_of_expand r hmessage at', ⟨htold.visible, htold.isObject, htold.reads⟩, ?_, ?_⟩
  · intro extras hextras
    have hshown : { r with extras, message }.shownExtras = { r with message }.shownExtras :=
      shownExtras_congr hextras
    have hfields : { r with extras, message }.fields at' = { r with message }.fields at' := by
      simp only [fields, hshown]
    have hexpand : Log.expand { r with extras }.message args = .ok message := hmessage
    have hline := lineWith_of_expand _ hexpand at'
    rw [hline, line, line, hfields]
  · intro r' args' message' hsize' hmessage' hne hline
    rw [lineWith_of_expand r' hmessage', Except.ok.injEq] at hline
    have hsize₂ : { r' with message := message' }.Sized := hsize'
    exact hne (message_of_line_eq hsize₂ hsize₁ hline)

/-- A record in which every text tries to end its line or its place in it. -/
def hostile : LogRecord where
  logger := "app\n"
  level := -5
  message := "Login of %s"
  extras := [("password", .text "hunter2"), ("reused", .int (-12)), ("is_primary", .bool false),
    ("error_type", .list [.text "a\n", .null]), ("account_id", .null), ("user_id", .text "\"\x7d\r\n")]
  failure := some (.value "boom\x00")
  trace := "Traceback:\n"

/-- A name that starts a line of its own. -/
def forgedName : Json := .text "x\"\x7d\n\x7b\"level\": \"INFO"

theorem sized_hostile : hostile.Sized := by
  intro key hkey n hget
  simp only [Log.extraFields, List.mem_cons, List.not_mem_nil, or_false] at hkey
  obtain rfl | rfl | rfl | rfl | rfl := hkey <;> cases hget
  decide

theorem shownOf_hostile : Log.shownOf hostile.extras Log.extraFields =
    [("user_id", .text "\"\x7d\r\n"), ("error_type", .text "['a\\n', None]"),
      ("is_primary", .bool false), ("reused", .int (-12))] := rfl

/-- The line of a hostile record says what the record holds, and nothing that its texts pretend. -/
theorem hostile_line_told :
    hostile.Sized ∧
    Log.expand hostile.message [forgedName] = .ok "Login of x\"\x7d\n\x7b\"level\": \"INFO" ∧
    ∃ line, hostile.lineWith [forgedName] default = .ok line ∧ (∀ c ∈ line.toList, 0x20 ≤ c.toNat) ∧
      Json.IsObject Json.isGap line.toList ∧
      Json.read line = .ok (.object [("timestamp", .text "0001-01-01T00:00:00+00:00"),
        ("level", .text "Level -5"), ("logger", .text "app\n"),
        ("message", .text "Login of x\"\x7d\n\x7b\"level\": \"INFO"),
        ("user_id", .text "\"\x7d\r\n"), ("error_type", .text "['a\\n', None]"),
        ("is_primary", .bool false), ("reused", .int (-12)),
        ("exception", .text "Traceback:\nValueError: boom\x00")]) ∧
      { hostile with extras := hostile.extras.tail }.lineWith [forgedName] default = .ok line ∧
      hostile.lineWith [.text "x"] default ≠ .ok line := by
  have hmessage : Log.expand hostile.message [forgedName] =
      .ok "Login of x\"\x7d\n\x7b\"level\": \"INFO" := rfl
  have hother : Log.expand hostile.message [.text "x"] = .ok "Login of x" := rfl
  obtain ⟨line, hline, htold, hhidden, hnever⟩ := line_unforgeable sized_hostile hmessage default
  obtain ⟨shown, exception, hread, hshown, -, hexception⟩ := htold.reads
  have hlevel : Log.levelName hostile.level = "Level -5" := by decide
  have htime : (Moment.utc default).text = "0001-01-01T00:00:00+00:00" := by decide
  have htext : hostile.trace ++ (Failure.value "boom\x00").logText = "Traceback:\nValueError: boom\x00" := by
    decide
  rw [hexception _ rfl, (Log.shows_iff.mp hshown).trans shownOf_hostile, hlevel, htime, htext] at hread
  refine ⟨sized_hostile, hmessage, line, hline, htold.visible, htold.isObject, hread, hhidden _ ?_,
    hnever _ _ _ sized_hostile hother (by decide)⟩
  simp only [List.forall_mem_cons]
  exact ⟨rfl, rfl, rfl, rfl, rfl, nofun⟩

end LogRecord

end PayoutRegistry
