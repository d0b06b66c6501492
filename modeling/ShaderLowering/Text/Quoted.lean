import ShaderLowering.Text.Printable

/-!
# Quoted strings

The written form of a string: double quotes around it, a backslash before a
double quote or a backslash, short escapes for the common control characters,
and the code point in hexadecimal for every other character that cannot be shown
as itself.

## Main definitions

* `escape` — the spelling of one character.
* `quote` — the spelling of a string.
-/

namespace ShaderLowering.Text

/-- A code point as an escape, without leading zeros. -/
def codePointEscape (c : Char) : List Char :=
  ['\\', 'u', '\x7b'] ++ Nat.toDigits 16 c.toNat ++ ['\x7d']

/-- The spelling of one character inside double quotes. -/
def escape (c : Char) : List Char :=
  if c = '\x00' then ['\\', '0']
  else if c = '\t' then ['\\', 't']
  else if c = '\n' then ['\\', 'n']
  else if c = '\r' then ['\\', 'r']
  else if c = '"' then ['\\', '"']
  else if c = '\\' then ['\\', '\\']
  else if extendsGrapheme c || !isPrintable c then codePointEscape c
  else [c]

/-- The spelling of a string. -/
def quote (s : String) : String :=
  String.ofList ('"' :: s.toList.flatMap escape ++ ['"'])

end ShaderLowering.Text
