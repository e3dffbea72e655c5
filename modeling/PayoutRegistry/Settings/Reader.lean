import PayoutRegistry.Settings.Basic
import PayoutRegistry.Settings.EnvFile
import PayoutRegistry.Text.LetterCase

/-!
Where the settings come from: the environment first, then a file of settings. Names count in any case of
letters. The file, unlike the environment, may hold no name that is not a setting.
-/
namespace PayoutRegistry

/-- Why no settings could be read. -/
inductive SettingsFault where
  /-- A setting whose text is JSON could not be read as JSON. -/
  | notJson
  | invalid (issues : List Issue)

namespace Settings

/-- The bindings with their names in lower case; a later one replaces an earlier one in its place. -/
def folded (bindings : List EnvFile.Binding) : List EnvFile.Binding :=
  bindings.foldl (fun bound b => EnvFile.bind bound { b with name := Text.lowercase b.name }) []

/-- The value that bindings give to a setting. -/
def given (bindings : List EnvFile.Binding) (name : String) : Except SettingsFault (Option Json) :=
  match (bindings.find? (·.name == name.toLower)).bind (·.value) with
  | none => .ok none
  | some s =>
    if structured.contains name then
      match Json.read s with
      | .ok .null => .ok none
      | .ok v => .ok (some v)
      | .error _ => .error .notJson
    else .ok (some (.text s))

/-- The settings that bindings give, under their names. -/
def givenFields (bindings : List EnvFile.Binding) : Except SettingsFault Json.Fields := do
  let values ← names.mapM fun name => do return (← given bindings name).map (name, ·)
  return values.filterMap id

/-- Whether a name belongs to a setting: it is its name, or a longer one where the text of the setting is
JSON. -/
def isKnown (name : String) : Bool :=
  names.any (·.toLower == name) ||
    structured.any fun s => s.toLower.toList.isPrefixOf name.toList

/-- The issues with the names in a file that belong to no setting; a name without text is passed over. -/
def unexpected (bindings : List EnvFile.Binding) : List Issue :=
  bindings.filterMap fun b =>
    if (b.value.getD "").isEmpty ∨ isKnown b.name then none
    else some { places := [.field b.name], problem := .unexpected }

/-- The settings of an environment and a file. -/
def load (environment : List (String × String)) (file : Option String) :
    Except SettingsFault Settings := do
  let outer := folded (environment.map fun (name, value) => { name, value := some value })
  let inner := folded ((file.map (EnvFile.read environment)).getD [])
  let fromEnvironment ← givenFields outer
  let fromFile ← givenFields inner
  match read (fromEnvironment ++ fromFile), unexpected inner with
  | .value settings, [] => return settings
  | .value _, extra => throw (.invalid extra)
  | .issues issues, extra => throw (.invalid (issues ++ extra))

end Settings

end PayoutRegistry
