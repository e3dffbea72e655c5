import PayoutRegistry.Json.Plain
import Mathlib.Tactic.Common

/-!
The plain text of a value, told by what the value consists of: a text stands for itself, and everything else
as it would stand inside a list.
-/
namespace PayoutRegistry.Json

/-- How a value is written inside another. -/
inductive Inner : Json → String → Prop
  | null : Inner .null "None"
  | yes : Inner (.bool true) "True"
  | no : Inner (.bool false) "False"
  | int (n : Int) : Inner (.int n) (toString n)
  | real (x : Binary64) : Inner (.real x) x.text
  | text (s : String) : Inner (.text s) (shownText Text.isPrintable s)
  | list {items : List Json} (word : Json → String) (each : ∀ v ∈ items, Inner v (word v)) :
      Inner (.list items) ("[" ++ ", ".intercalate (items.map word) ++ "]")
  | object {fields : Fields} (word : Json → String) (each : ∀ f ∈ fields, Inner f.2 (word f.2)) :
      Inner (.object fields) ("\x7b" ++ ", ".intercalate (fields.map fun f =>
        shownText Text.isPrintable f.1 ++ ": " ++ word f.2) ++ "\x7d")

/-- The plain text of a value. -/
inductive IsPlain : Json → String → Prop
  | text (s : String) : IsPlain (.text s) s
  | other {v : Json} {s : String} (structured : ∀ t, v ≠ .text t) (inner : Inner v s) : IsPlain v s

variable {v : Json} {s : String} {keeps : Char → Bool}

theorem shownItems_eq (items : List Json) :
    shownItems keeps items = ", ".intercalate (items.map (shown keeps)) := by
  induction items with
  | nil => rfl
  | cons v items ih =>
    cases items with
    | nil => simp [shownItems]
    | cons w items => simp [shownItems, ih, String.append_assoc]

theorem shownFields_eq (fields : Fields) :
    shownFields keeps fields = ", ".intercalate (fields.map fun f =>
      shownText keeps f.1 ++ ": " ++ shown keeps f.2) := by
  induction fields with
  | nil => rfl
  | cons f fields ih =>
    cases fields with
    | nil => simp [shownFields, String.append_assoc]
    | cons g fields => simp [shownFields, ih, String.append_assoc]

theorem shown_list (items : List Json) :
    shown keeps (.list items) = "[" ++ ", ".intercalate (items.map (shown keeps)) ++ "]" := by
  rw [shown, shownItems_eq, String.append_assoc]

theorem shown_object (fields : Fields) :
    shown keeps (.object fields) = "\x7b" ++ ", ".intercalate (fields.map fun f =>
      shownText keeps f.1 ++ ": " ++ shown keeps f.2) ++ "\x7d" := by
  rw [shown, shownFields_eq, String.append_assoc]

theorem inner_shown (v : Json) : Inner v (shown Text.isPrintable v) := by
  match v with
  | .null => exact .null
  | .bool true => exact .yes
  | .bool false => exact .no
  | .int n => exact .int n
  | .real x => exact .real x
  | .text s => exact .text s
  | .list items =>
    rw [shown_list]
    exact .list _ fun w _ => inner_shown w
  | .object fields =>
    rw [shown_object]
    refine .object _ ?_
    rintro ⟨key, w⟩ hf
    have hpart : sizeOf w < sizeOf (key, w) := by
      rw [Prod.mk.sizeOf_spec]
      omega
    have hlt : sizeOf w < sizeOf fields := Nat.lt_trans hpart (List.sizeOf_lt_of_mem hf)
    exact inner_shown w
termination_by sizeOf v

theorem Inner.eq (h : Inner v s) : s = shown Text.isPrintable v := by
  induction h with
  | list word each ih =>
    rw [shown_list, List.map_congr_left ih]
  | @object fields word each ih =>
    have hwords : ∀ f ∈ fields, shownText Text.isPrintable f.1 ++ ": " ++ word f.2 =
        shownText Text.isPrintable f.1 ++ ": " ++ shown Text.isPrintable f.2 :=
      fun f hf => congrArg _ (ih f hf)
    rw [shown_object, List.map_congr_left hwords]
  | _ => rfl

/-- The plain text of a value is the only one there is. -/
theorem isPlain_iff : IsPlain v s ↔ s = v.plain := by
  constructor
  · intro h
    cases h with
    | text => rfl
    | other structured inner =>
      rw [inner.eq]
      cases v with
      | text t => exact absurd rfl (structured t)
      | _ => rfl
  · rintro rfl
    cases v with
    | text s => exact .text s
    | _ => exact .other nofun (inner_shown _)

end PayoutRegistry.Json
