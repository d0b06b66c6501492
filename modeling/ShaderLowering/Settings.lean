import ShaderLowering.Lowering.Method
import ShaderLowering.Toml.Document

/-!
# Settings

What a user can choose: the prefix of capture names, and types beyond the
built-in ones.  Settings are written as a document with a string
`capture_prefix` and a table `types` of strings; both may be missing, and other
keys mean nothing.

## Main definitions

* `Settings`, `Settings.standard` — the choices, and those of an empty document.
* `Settings.ofText`, `Settings.ofFile` — reading them.
* `Settings.typeMap`, `Settings.context` — what they mean for lowering.
-/

namespace ShaderLowering

/-- Choices of the user. -/
structure Settings where
  /-- What capture names begin with. -/
  capturePrefix : String
  /-- Shader types by host type, which take precedence over the built-in ones. -/
  types : Dictionary String String

/-- What is wrong with a file. -/
inductive FileFault where
  | missing
  /-- It is not UTF-8. -/
  | notText
deriving DecidableEq, Repr

/-- The wording of a fault. -/
def FileFault.message : FileFault → String
  | missing => "No such file or directory (os error 2)"
  | notText => "stream did not contain valid UTF-8"

/-- Why there are no settings. -/
inductive SettingsError where
  | unreadable (fault : FileFault)
  /-- The text is no document, or `capture_prefix` or `types` is of the wrong type. -/
  | malformed
deriving DecidableEq, Repr

/-- The wording of an error. -/
def SettingsError.message : SettingsError → String
  | unreadable fault => "Failed to read config file: " ++ fault.message
  | malformed => "Failed to parse config"

namespace Settings

/-- The settings of a user who chooses nothing. -/
def standard : Settings :=
  ⟨defaultCapturePrefix, .empty⟩

/-- Whether nothing is chosen, or only what is standard. -/
def isStandard (s : Settings) : Bool :=
  s.capturePrefix == defaultCapturePrefix && s.types.size == 0

/-! ## Meaning -/

/-- The built-in types with the chosen ones on top. -/
def typeMap (s : Settings) : TypeMap :=
  TypeMap.builtin.registerAll s.types.entries

/-- The context of lowering with the chosen prefix. -/
def context (s : Settings) (resolver : Resolver) (types : TypeMap) : LoweringContext :=
  ⟨resolver, types, s.capturePrefix⟩

/-! ## Reading -/

/-- The string that a value is. -/
def stringOf : Toml.Value → Option String
  | .string text => some text
  | _ => none

/-- The key under which a point in time counts as a table of one string. -/
def datetimeKey : String := "$__toml_private_datetime"

/-- The strings of a table, by key. -/
def stringsOf : Toml.Value → Option (List (String × String))
  | .table entries => entries.mapM fun (key, v) => (key, ·) <$> stringOf v
  | .datetime t => some [(datetimeKey, t.text)]
  | _ => none

/-- The settings that the entries of a document make. -/
def ofEntries (entries : List (String × Toml.Value)) : Option Settings := do
  let capturePrefix ← match entries.lookup "capture_prefix" with
    | some v => stringOf v
    | none => some standard.capturePrefix
  let types ← match entries.lookup "types" with
    | some v => .ofList <$> stringsOf v
    | none => some standard.types
  return ⟨capturePrefix, types⟩

/-- The settings that a text holds. -/
def ofText (text : String) : Except SettingsError Settings :=
  match (Toml.entriesOf text).bind ofEntries with
  | some s => .ok s
  | none => .error .malformed

/-- The settings that a file holds, given by its bytes if there is such a file. -/
def ofFile (contents : Option ByteArray) : Except SettingsError Settings :=
  match contents with
  | none => .error (.unreadable .missing)
  | some bytes =>
    match String.fromUTF8? bytes with
    | none => .error (.unreadable .notText)
    | some text => ofText text

end Settings

end ShaderLowering
