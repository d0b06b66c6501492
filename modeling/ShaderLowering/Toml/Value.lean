import ShaderLowering.Toml.Datetime
import ShaderLowering.Toml.Number

/-!
# Values

What a document can say about a key.

## Main definitions

* `Value` — a string, a number, a truth value, a point in time, an array or a table.
-/

namespace ShaderLowering.Toml

/-- A value.  The keys of a table differ from each other. -/
inductive Value where
  | string (text : String)
  | number (n : Number)
  | boolean (b : Bool)
  | datetime (t : Datetime)
  | array (items : List Value)
  | table (entries : List (String × Value))

end ShaderLowering.Toml
