import ShaderLowering.Toml.Reader

/-!
# What stands between the tokens of a document

Spaces and tabs, comments and line ends.  A line ends in a line feed, with or
without a carriage return before it; a carriage return alone is not allowed.

## Main definitions

* `spaces`, `gap` — blank text within a line, and across lines.
* `comment`, `newline`, `lineEnd` — the parts of a line's end.
-/

namespace ShaderLowering.Toml

/-- A space or a tab. -/
def isSpace (c : Char) : Bool :=
  c == ' ' || c == '\t'

/-- A character that may stand in a comment: a tab, or anything that is not an
ASCII control character. -/
def isText (c : Char) : Bool :=
  c == '\t' || (' ' ≤ c && c != '\x7f')

/-- Any number of spaces and tabs. -/
def spaces : Reader Unit :=
  discard (span isSpace)

/-- A line break. -/
def newline : Reader Unit :=
  char '\n' <|> (do char '\r'; char '\n')

/-- A comment, up to the end of its line. -/
def comment : Reader Unit := do
  char '#'
  discard (span isText)

/-- A line break or the end of the text. -/
def lineEnd : Reader Unit :=
  newline <|> ending

/-- The rest of a line that holds nothing but a comment. -/
def lineRest : Reader Unit := do
  spaces
  discard (optional comment)
  lineEnd

/-- Blank text over any number of lines.  A comment in it ends in a line break. -/
def gap : Reader Unit :=
  discard (many (discard (span₁ isSpace) <|> (do discard (optional comment); newline)))

end ShaderLowering.Toml
