-- Settings read from a configuration text, and what can be wrong with them.
import CallForm.Ir.Fragment
import CallForm.Session.Basic
import CallForm.Text.Shown
import CallForm.Toml.Reader

namespace CallForm

/-! ## What can be wrong -/

/-- A kind of value that a setting asks for. -/
inductive SettingKind
  | boolean | string | sequence | map | lowering
deriving Repr, DecidableEq

/-- The reasons for a text not to be a configuration. -/
inductive ConfigError
  | malformed
  | unknownKey (key : String) (known : List String)
  | wrongKind (found : Toml) (wanted : SettingKind)
deriving Repr

/-- How a message names a kind of value. -/
def SettingKind.text : SettingKind → String
  | .boolean => "a boolean"
  | .string => "a string"
  | .sequence => "a sequence"
  | .map => "a map"
  | .lowering => "struct LoweringConfig"

/-- Doubles in a message: always positional, as no double has a point outside these places. -/
def messageNumbers : NumberStyle where
  tie := .up
  firstPoint := -400
  lastPoint := 400
  notANumber := "NaN"
  infinite := "inf"

/-- How a message names a value. -/
def Toml.description : Toml → String
  | .string value => "string " ++ shown value
  | .integer value => "integer `" ++ toString value ++ "`"
  | .float value => "floating point `" ++ messageNumbers.render value ++ "`"
  | .boolean value => "boolean `" ++ toString value ++ "`"
  | .array _ | .tables _ => "sequence"
  | .table _ _ | .date _ => "map"

namespace ConfigError

/-- A key as a message names it. -/
def keyText (key : String) : String := "`" ++ key ++ "`"

/-- The keys that would have been right. -/
def knownText : List String → String
  | [key] => keyText key
  | keys => "one of " ++ Fragment.join (keys.map keyText)

/-- The sentence that tells the cause. -/
def message : ConfigError → String
  | .malformed => "not a configuration text"
  | .unknownKey key known =>
    "unknown field " ++ keyText key ++ ", expected " ++ knownText known
  | .wrongKind found wanted =>
    "invalid type: " ++ found.description ++ ", expected " ++ wanted.text

end ConfigError

/-! ## Reading settings -/

namespace Config

/-- A setting that is on or off. -/
def booleanOf : Toml → Except ConfigError Bool
  | .boolean value => .ok value
  | found => .error (.wrongKind found .boolean)

/-- A setting that is a text. -/
def stringOf : Toml → Except ConfigError String
  | .string value => .ok value
  | found => .error (.wrongKind found .string)

/-- The key under which a date or time stands for a table with one entry. -/
def dateKey : String := "$__toml_private_datetime"

/-- A setting that is a table; a date or time is one, too. -/
def entriesOf : Toml → Except ConfigError TomlEntries
  | .table _ entries => .ok entries
  | .date text => .ok [(dateKey, .string text)]
  | found => .error (.wrongKind found .map)

/-- A setting that is a list of texts. -/
def stringsOf : Toml → Except ConfigError (List String)
  | .array items => items.mapM stringOf
  | .tables items => items.mapM fun entries => stringOf (.table .header entries)
  | found => .error (.wrongKind found .sequence)

/-- The values of a table, each read in the same way. -/
def registryOf {α : Type} (read : Toml → Except ConfigError α) (found : Toml) :
    Except ConfigError (Registry α) := do
  let entries ← entriesOf found
  let values ← entries.mapM fun (key, value) => (read value).map (key, ·)
  return Registry.ofList values

/-- The settings of the lowering. -/
def loweringKeys : List String := ["group_aggressively"]

/-- All settings. -/
def keys : List String := ["lowering", "references", "modules", "imports"]

/-- Takes over one setting of the lowering. -/
def addLowering (config : Config) (entry : String × Toml) : Except ConfigError Config :=
  if entry.1 = "group_aggressively" then
    (booleanOf entry.2).map fun value => { config with groupAggressively := value }
  else .error (.unknownKey entry.1 loweringKeys)

/-- The settings of the lowering, as a table or as a list of their values in order. -/
def loweringOf (config : Config) : Toml → Except ConfigError Config
  | .array [] | .tables [] => .ok config
  | .array (value :: _) => addLowering config ("group_aggressively", value)
  | .tables (entries :: _) => addLowering config ("group_aggressively", .table .header entries)
  | .table _ entries => entries.foldlM addLowering config
  | .date text => addLowering config (dateKey, .string text)
  | found => .error (.wrongKind found .lowering)

/-- Takes over one setting. -/
def addSetting (config : Config) (entry : String × Toml) : Except ConfigError Config :=
  if entry.1 = "lowering" then loweringOf config entry.2
  else if entry.1 = "references" then
    (registryOf stringOf entry.2).map fun found => { config with references := found }
  else if entry.1 = "modules" then
    (registryOf stringsOf entry.2).map fun found => { config with modules := found }
  else if entry.1 = "imports" then
    (registryOf stringOf entry.2).map fun found => { config with imports := found }
  else .error (.unknownKey entry.1 keys)

/-- The configuration that a text gives: its settings in the order of the text, up to the first
that is wrong. -/
def ofText (text : String) : Except ConfigError Config :=
  match Toml.read? text with
  | none => .error .malformed
  | some entries => entries.foldlM addSetting {}

end Config

end CallForm
