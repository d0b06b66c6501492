import ShaderLowering.Toml.Digits
import ShaderLowering.Toml.Space

/-!
# Strings and keys

A string stands in double quotes, where a backslash begins an escape, or in
single quotes, where every character stands for itself.  Three quotes on either
side let a string go over several lines.  A key is a string on one line, or is
bare.

## Main definitions

* `string` — a string in any of the four forms.
* `Key`, `key` — a key with the keys before its dots.
-/

namespace ShaderLowering.Toml

/-- A character that stands for itself between double quotes. -/
def isBasic (c : Char) : Bool :=
  isText c && c != '"' && c != '\\'

/-- A character that may stand between single quotes. -/
def isLiteral (c : Char) : Bool :=
  isText c && c != '\''

/-- A character of a bare key. -/
def isBare (c : Char) : Bool :=
  c.isAlphanum || c == '-' || c == '_'

/-- A character given by its code point, in a fixed number of hexadecimal digits. -/
def codePoint (width : Nat) : Reader Char := do
  let n := positional 16 (← exactly (oneOf isHexDigit) width)
  guard n.isValidChar
  return Char.ofNat n

/-- An escape. -/
def escape : Reader Char := do
  char '\\'
  match ← oneOf fun _ => true with
  | 'b' => return '\x08'
  | 't' => return '\t'
  | 'n' => return '\n'
  | 'f' => return '\x0c'
  | 'r' => return '\r'
  | '"' => return '"'
  | '\\' => return '\\'
  | 'u' => codePoint 4
  | 'U' => codePoint 8
  | _ => failure

/-! ## Strings on one line -/

/-- A string in double quotes on one line. -/
def basicString : Reader String := do
  char '"'
  let parts ← many (span₁ isBasic <|> return [← escape])
  char '"'
  return String.ofList parts.flatten

/-- A string in single quotes on one line. -/
def literalString : Reader String := do
  char '\''
  let text ← span isLiteral
  char '\''
  return String.ofList text

/-! ## Strings over several lines -/

/-- A line break, which counts as a line feed whichever way it is written. -/
def lineFeed : Reader (List Char) := do
  newline
  return ['\n']

/-- A backslash at the end of a line, which stands for nothing and takes the blank
text up to the next visible character with it. -/
def continuedLine : Reader (List Char) := do
  char '\\'
  spaces
  newline
  discard (many (discard (span₁ isSpace) <|> newline))
  return []

/-- A string between three quotes on either side.  A line break right after the
opening quotes is dropped.  One or two quotes may stand anywhere within, and
also right before the closing quotes. -/
def multiline (quote : Char) (part : Reader (List Char)) : Reader String := do
  literally [quote, quote, quote]
  discard (optional newline)
  let parts ← many (part <|> inner)
  let closing ← span (· == quote)
  guard (3 ≤ closing.length ∧ closing.length ≤ 5)
  return String.ofList (parts.flatten ++ closing.drop 3)
where
  /-- A run of quotes that is too short to close the string. -/
  inner : Reader (List Char) := do
    let run ← span₁ (· == quote)
    guard (run.length < 3)
    return run

/-- A string in any form. -/
def string : Reader String :=
  multiline '"'
      (span₁ isBasic <|> continuedLine <|> (return [← escape]) <|> lineFeed)
    <|> basicString
    <|> multiline '\'' (span₁ isLiteral <|> lineFeed)
    <|> literalString

/-! ## Keys -/

/-- A key with the keys before its dots, outermost first. -/
structure Key where
  parents : List String
  name : String

/-- All parts of a key. -/
def Key.path (k : Key) : List String :=
  k.parents ++ [k.name]

/-- A key without dots. -/
def simpleKey : Reader String :=
  basicString <|> literalString <|> return String.ofList (← span₁ isBare)

/-- The number of parts that a key stays below. -/
def keyLimit : Nat := 80

/-- A key, with blank space around its parts. -/
def key : Reader Key := do
  let parts ← separated (char '.') do
    spaces
    let part ← simpleKey
    spaces
    return part
  guard (parts.length < keyLimit)
  match parts.getLast? with
  | some name => return ⟨parts.dropLast, name⟩
  | none => failure

end ShaderLowering.Toml
