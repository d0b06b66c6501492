import ShaderLowering.Source.Expr

/-!
# Tokens of formulas

How the text of a formula comes apart: into names, numbers, operators and
punctuation, each of them as long as it can be.  As in C, a dot behind digits
belongs to the number.

## Main definitions

* `Token` — what a text is made of.
* `goesOn`, `Token.ofLexeme?` — where a token ends, and which one it is.
* `lex` — the tokens of a text.

## Main statements

* `Lexes.name`, `Lexes.natural`, `Lexes.operator`, `Lexes.punctuation` — every token is
  read back from its text in front of what cannot lengthen it.
-/

namespace ShaderLowering.Formula

/-! ## Tokens -/

/-- A token of a formula. -/
inductive Token where
  | name (text : String)
  | number (value : Literal)
  | operator (op : Binary)
  | leftParen | rightParen | leftBracket | rightBracket
  | comma | dot
deriving DecidableEq, Repr

/-- Whether a character belongs to names and numbers. -/
def isWordChar (c : Char) : Bool :=
  c.isAlphanum || c == '_' || 127 < c.toNat

/-- Whether a text is an identifier. -/
def isIdentifier (text : String) : Bool :=
  text.toList.all isWordChar && text.toList.head?.any (!Char.isDigit ·)

/-- The binary operators. -/
def operators : List Binary :=
  [.add, .sub, .mul, .div, .rem, .and, .or, .bitAnd, .bitOr, .bitXor, .shl, .shr,
    .eq, .ne, .lt, .le, .gt, .ge]

/-- The token that is written with one character which no other token is written with. -/
def Token.punctuation? : Char → Option Token
  | '(' => some .leftParen
  | ')' => some .rightParen
  | '[' => some .leftBracket
  | ']' => some .rightBracket
  | ',' => some .comma
  | '.' => some .dot
  | _ => none

/-- The token that is written with these characters, which belong to no word. -/
def Token.ofSymbol? (text : List Char) : Option Token :=
  match operators.find? (·.symbol.toList == text), text with
  | some op, _ => some (.operator op)
  | none, [c] => punctuation? c
  | none, _ => none

/-- The value of decimal digits. -/
def decimal? (digits : List Char) : Option Nat :=
  if digits ≠ [] ∧ digits.all Char.isDigit then some (Nat.ofDigitChars 10 digits 0) else none

/-- The integer literal that is written as a word: unsigned with a `u` behind it. -/
def numberOf? (word : List Char) : Option Literal :=
  if word.getLast? = some 'u' then do
    let n ← decimal? word.dropLast
    if n < UInt64.size then some (.uint (.ofNat n)) else none
  else do
    let n ← decimal? word
    if n < UInt64.size / 2 then some (.int (.ofNat n)) else none

/-- The token that is written with these characters. -/
def Token.ofLexeme? (lexeme : List Char) : Option Token :=
  match lexeme.head? with
  | none => none
  | some c =>
    if c.isDigit then (numberOf? lexeme).map .number
    else if isWordChar c then some (.name (String.ofList lexeme))
    else ofSymbol? lexeme

/-! ## The tokens of a text -/

/-- Whether what has been read of a token goes on with a character. -/
def goesOn (lexeme : List Char) (c : Char) : Bool :=
  match lexeme.head? with
  | none => !c.isWhitespace
  | some d =>
    if isWordChar d then isWordChar c || (d.isDigit && c == '.')
    else (Token.ofSymbol? (lexeme ++ [c])).isSome

/-- What has been read, as a token, unless it is nothing. -/
def flush (lexeme : List Char) : Option (List Token) :=
  if lexeme = [] then some [] else (Token.ofLexeme? lexeme).map ([·])

/-- The tokens of a text, where the first one has been read in part. -/
def lexFrom (lexeme : List Char) : List Char → Option (List Token)
  | [] => flush lexeme
  | c :: cs =>
    if goesOn lexeme c then lexFrom (lexeme ++ [c]) cs
    else do
      let front ← flush lexeme
      let behind ← lexFrom (if c.isWhitespace then [] else [c]) cs
      return front ++ behind

/-- The tokens of a text. -/
def lex (text : List Char) : Option (List Token) :=
  lexFrom [] text

example : lex "a<<(b1 .x%10u)".toList = some [.name "a", .operator .shl, .leftParen, .name "b1",
    .dot, .name "x", .operator .rem, .number (.uint 10), .rightParen] := by
  decide

/-! ## Numbers -/

/-- Whether a literal is an integer without a sign. -/
def isNatural : Literal → Bool
  | .int value => 0 ≤ value
  | .uint _ => true
  | _ => false

theorem isDigit_of_mem_toDigits {n : Nat} {c : Char} (h : c ∈ Nat.toDigits 10 n) :
    c.isDigit = true :=
  Nat.isDigit_of_mem_toDigits (by decide) (by decide) h

/-- A number is the value of its digits. -/
theorem decimal?_toDigits (n : Nat) : decimal? (Nat.toDigits 10 n) = some n := by
  have digits : (Nat.toDigits 10 n).all Char.isDigit = true :=
    List.all_eq_true.2 fun _ => isDigit_of_mem_toDigits
  rw [decimal?, if_pos ⟨Nat.toDigits_ne_nil, digits⟩, Nat.ofDigitChars_ten_toDigits]

/-- The last digit is no `u`. -/
theorem getLast?_toDigits_ne (n : Nat) : (Nat.toDigits 10 n).getLast? ≠ some 'u' := by
  intro h
  cases isDigit_of_mem_toDigits (List.mem_of_getLast? h)

theorem numberOf?_int {value : Int64} (h : 0 ≤ value) :
    numberOf? (Nat.toDigits 10 value.toInt.toNat) = some (.int value) := by
  have nonneg : 0 ≤ value.toInt := by simpa [Int64.le_iff_toInt_le] using h
  have bound : value.toInt.toNat < UInt64.size / 2 := by
    have := value.toInt_lt
    rw [UInt64.size]
    omega
  have same : Int64.ofNat value.toInt.toNat = value := by
    rw [← Int64.ofInt_eq_ofNat, Int.toNat_of_nonneg nonneg, Int64.ofInt_toInt]
  rw [numberOf?, if_neg (getLast?_toDigits_ne _), decimal?_toDigits, Option.bind_eq_bind,
    Option.bind_some, if_pos bound, same]

theorem numberOf?_uint (value : UInt64) :
    numberOf? (Nat.toDigits 10 value.toNat ++ ['u']) = some (.uint value) := by
  have bound : value.toNat < UInt64.size := value.toNat_lt
  simp [numberOf?, decimal?_toDigits, bound]

/-! ## Lexemes -/

/-- Characters of words are no blanks. -/
theorem isWhitespace_of_isWordChar {c : Char} (h : isWordChar c = true) :
    c.isWhitespace = false := by
  cases hc : c.isWhitespace with
  | false => rfl
  | true =>
    have : c = ' ' ∨ c = '\t' ∨ c = '\r' ∨ c = '\n' := by
      simpa [Char.isWhitespace, or_assoc] using hc
    rcases this with rfl | rfl | rfl | rfl <;> cases h

/-- A text that begins afresh is read as one that follows what has been read. -/
theorem lexFrom_of_stops {lexeme rest : List Char} {ts : List Token}
    (stops : ∀ c ∈ rest.head?, goesOn lexeme c = false) (h : flush lexeme = some ts) :
    lexFrom lexeme rest = (lex rest).map (ts ++ ·) := by
  cases rest with
  | nil => rw [lexFrom, h, lex, lexFrom, flush, if_pos rfl, Option.map_some, List.append_nil]
  | cons c cs =>
    have fresh : lex (c :: cs) = lexFrom (if c.isWhitespace then [] else [c]) cs := by
      cases hc : c.isWhitespace <;> simp [lex, lexFrom, goesOn, flush, hc]
    rw [lexFrom, stops c rfl, fresh, h]
    cases lexFrom (if c.isWhitespace then [] else [c]) cs <;> rfl

/-- Whether a lexeme goes on to the end of a text. -/
def goesOnBy (lexeme : List Char) : List Char → Bool
  | [] => true
  | c :: cs => goesOn lexeme c && goesOnBy (lexeme ++ [c]) cs

theorem lexFrom_of_goesOnBy {lexeme : List Char} : ∀ {text rest : List Char},
    goesOnBy lexeme text = true →
      lexFrom lexeme (text ++ rest) = lexFrom (lexeme ++ text) rest := by
  intro text
  induction text generalizing lexeme with
  | nil => simp
  | cons c cs ih =>
    intro rest h
    rw [goesOnBy, Bool.and_eq_true] at h
    rw [List.cons_append, lexFrom, if_pos h.1, ih h.2, List.append_assoc, List.singleton_append]

/-- What begins with a word character and goes on with them is a lexeme. -/
theorem goesOnBy_word {c : Char} {cs : List Char} (h : isWordChar c = true)
    (hs : cs.all isWordChar = true) : goesOnBy [] (c :: cs) = true := by
  have behind (front : List Char) : goesOnBy (c :: front) cs = true := by
    induction cs generalizing front with
    | nil => rfl
    | cons d ds ih =>
      rw [List.all_cons, Bool.and_eq_true] at hs
      simp [goesOnBy, goesOn, h, hs.1, ih hs.2]
  simp [goesOnBy, goesOn, behind, isWhitespace_of_isWordChar h]

/-! ## Texts and their tokens -/

/-- A text in front of another one is read as these tokens, and the other one on its
own. -/
def Lexes (text : List Char) (ts : List Token) (rest : List Char) : Prop :=
  lex (text ++ rest) = (lex rest).map (ts ++ ·)

namespace Lexes

theorem append {text more rest : List Char} {ts us : List Token} (h : Lexes text ts (more ++ rest))
    (h' : Lexes more us rest) : Lexes (text ++ more) (ts ++ us) rest := by
  rw [Lexes, List.append_assoc, h, h']
  simp [Function.comp_def]

/-- A lexeme is read as its token, in front of what cannot lengthen it. -/
theorem lexeme {text rest : List Char} {t : Token} (h : goesOnBy [] text = true)
    (stops : ∀ c ∈ rest.head?, goesOn text c = false) (token : Token.ofLexeme? text = some t) :
    Lexes text [t] rest := by
  have flushed : flush text = some [t] := by
    cases text with
    | nil => cases token
    | cons c cs => simp [flush, token]
  rw [Lexes, lex, lexFrom_of_goesOnBy h, List.nil_append, lexFrom_of_stops stops flushed]

/-- A blank is no token. -/
theorem blank (rest : List Char) : Lexes [' '] [] rest := by
  rw [Lexes, lex, List.singleton_append, lexFrom, if_neg (by decide)]
  simp [flush, lex]

/-- Punctuation is a token of its own. -/
theorem punctuation {c : Char} {t : Token} (h : Token.punctuation? c = some t)
    (rest : List Char) : Lexes [c] [t] rest := by
  rw [Token.punctuation?.eq_def] at h
  split at h <;> cases h
  all_goals exact .lexeme rfl (fun d _ => by rfl) rfl

/-- A text between brackets. -/
theorem enclosed {text rest : List Char} {ts : List Token} {left right : Char} {l r : Token}
    (hl : Token.punctuation? left = some l) (hr : Token.punctuation? right = some r)
    (h : Lexes text ts (right :: rest)) :
    Lexes (left :: (text ++ [right])) (l :: (ts ++ [r])) rest :=
  (punctuation hl _).append (append h (punctuation hr rest))

/-- An operator is read between blanks. -/
theorem operator (op : Binary) (rest : List Char) :
    Lexes (' ' :: (op.symbol.toList ++ [' '])) [.operator op] rest := by
  have spelled (more : List Char) : Lexes op.symbol.toList [.operator op] (' ' :: more) := by
    cases op <;> exact .lexeme rfl (fun d hd => by cases hd; rfl) rfl
  exact (blank _).append ((spelled rest).append (blank rest))

/-- An identifier is read as a name in front of what belongs to no word. -/
theorem name {text : String} (h : isIdentifier text = true) {rest : List Char}
    (stops : ∀ c ∈ rest.head?, isWordChar c = false) : Lexes text.toList [.name text] rest := by
  rw [isIdentifier, Bool.and_eq_true] at h
  cases ht : text.toList with
  | nil => simp [ht] at h
  | cons c cs =>
    rw [ht, List.all_cons, Bool.and_eq_true] at h
    have letter : c.isDigit = false := by simpa using h.2
    refine .lexeme (goesOnBy_word h.1.1 h.1.2) (fun d hd => ?_) ?_
    · simp [goesOn, h.1.1, letter, stops d hd]
    · have spelled : String.ofList (c :: cs) = text := by rw [← ht, String.ofList_toList]
      simp [Token.ofLexeme?, letter, h.1.1, spelled]

/-- A word that begins with a digit is read as a number in front of what belongs to no
word and is no dot. -/
theorem number {word : List Char} {value : Literal} (hw : word.all isWordChar = true)
    (digit : word.head?.any Char.isDigit = true) (h : numberOf? word = some value)
    {rest : List Char} (stops : ∀ c ∈ rest.head?, isWordChar c = false ∧ c ≠ '.') :
    Lexes word [.number value] rest := by
  cases word with
  | nil => cases digit
  | cons c cs =>
    rw [List.all_cons, Bool.and_eq_true] at hw
    replace digit : c.isDigit = true := by simpa using digit
    refine .lexeme (goesOnBy_word hw.1 hw.2) (fun d hd => ?_) ?_
    · simp [goesOn, hw.1, stops d hd]
    · simp [Token.ofLexeme?, digit, h]

/-- The digits of a number, and what belongs to the word behind them. -/
theorem digits {n : Nat} {suffix : List Char} {value : Literal}
    (hs : suffix.all isWordChar = true) (h : numberOf? (Nat.toDigits 10 n ++ suffix) = some value)
    {rest : List Char} (stops : ∀ c ∈ rest.head?, isWordChar c = false ∧ c ≠ '.') :
    Lexes (Nat.toDigits 10 n ++ suffix) [.number value] rest := by
  refine .number ?_ ?_ h stops
  · rw [List.all_append, hs, Bool.and_true, List.all_eq_true]
    intro c hc
    simp [isWordChar, Char.isAlphanum, isDigit_of_mem_toDigits hc]
  · cases hn : Nat.toDigits 10 n with
    | nil => exact absurd hn Nat.toDigits_ne_nil
    | cons c cs => exact isDigit_of_mem_toDigits (n := n) (by simp [hn])

/-- An integer literal without a sign is read as a number. -/
theorem natural {value : Literal} (h : isNatural value = true) {rest : List Char}
    (stops : ∀ c ∈ rest.head?, isWordChar c = false ∧ c ≠ '.') :
    Lexes value.source.toList [.number value] rest := by
  cases value with
  | int value =>
    have nonneg : 0 ≤ value := by simpa [isNatural] using h
    have written : (Literal.int value).source.toList
        = Nat.toDigits 10 value.toInt.toNat ++ [] := by
      obtain ⟨n, hn⟩ := Int.eq_ofNat_of_zero_le (Int64.le_iff_toInt_le.1 nonneg)
      have text : toString (Int.ofNat n) = toString n := rfl
      rw [Literal.source, hn, ← Int.ofNat_eq_natCast, text]
      simp
    rw [written]
    exact .digits rfl (by rw [List.append_nil, numberOf?_int nonneg]) stops
  | uint value =>
    have written : (Literal.uint value).source.toList
        = Nat.toDigits 10 value.toNat ++ ['u'] := by
      simp [Literal.source]
    rw [written]
    exact .digits rfl (numberOf?_uint value) stops
  | bool | float | double | string | null => cases h

end Lexes

end ShaderLowering.Formula
