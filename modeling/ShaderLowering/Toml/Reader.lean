/-!
# Readers

A reader takes something off the front of a text, or refuses.  A refusal takes
nothing, so that `p <|> q` tries `q` where `p` was tried.

## Main definitions

* `Reader` — the type, a state of remaining characters over `Option`.
* `oneOf`, `char`, `literally`, `span`, `span₁`, `ending` — readers of characters.
* `many`, `separated`, `exactly` — repetition.
* `Reader.whole` — reading a whole text.
-/

namespace ShaderLowering.Toml

/-- A reader of values: what it takes, and the characters that remain. -/
abbrev Reader : Type → Type :=
  StateT (List Char) Option

/-- One character of a class. -/
def oneOf (p : Char → Bool) : Reader Char := fun input =>
  match input with
  | [] => none
  | c :: rest => if p c then some (c, rest) else none

/-- One given character. -/
def char (c : Char) : Reader Unit := do
  let _ ← oneOf (· == c)

/-- The given characters, one after the other. -/
def literally : List Char → Reader Unit
  | [] => pure ()
  | c :: cs => do char c; literally cs

/-- The longest run of characters of a class, which may be empty. -/
def span (p : Char → Bool) : Reader (List Char) := fun input =>
  some (input.takeWhile p, input.dropWhile p)

/-- The longest run of characters of a class, with at least one. -/
def span₁ (p : Char → Bool) : Reader (List Char) := do
  let c ← oneOf p
  return c :: (← span p)

/-- The end of the text. -/
def ending : Reader Unit := fun input =>
  if input.isEmpty then some ((), []) else none

/-- What a reader takes again and again, until it refuses or takes nothing. -/
def manyFrom {α : Type} (p : Reader α) (input : List Char) : List α × List Char :=
  match p input with
  | none => ([], input)
  | some (a, rest) =>
    if rest.length < input.length then
      let (as, rest) := manyFrom p rest
      (a :: as, rest)
    else ([], input)
termination_by input.length

/-- Zero or more. -/
def many {α : Type} (p : Reader α) : Reader (List α) := fun input =>
  some (manyFrom p input)

/-- One or more with something in between.  After the last one nothing more is
taken. -/
def separated {α : Type} (separator : Reader Unit) (p : Reader α) : Reader (List α) := do
  let first ← p
  return first :: (← many do separator; p)

/-- A fixed number of times. -/
def exactly {α : Type} (p : Reader α) : Nat → Reader (List α)
  | 0 => pure []
  | n + 1 => do
    let a ← p
    return a :: (← exactly p n)

/-- What a reader makes of a whole text. -/
def Reader.whole {α : Type} (p : Reader α) (text : String) : Option α :=
  match p text.toList with
  | some (a, []) => some a
  | _ => none

end ShaderLowering.Toml
