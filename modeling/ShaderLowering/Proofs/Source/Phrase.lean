import Mathlib.Data.String.Basic

/-!
# Phrases

How the text of a cast, an access, an index or a call is read.  A phrase is a
sequence of casts in front of a chain: a word, and behind it accesses, indices and
calls.  A cast reaches over the whole chain behind it, because the forms of a
chain bind tighter.  No two phrases have the same text.

## Main definitions

* `isWord` — a text that ends where a delimiter stands.
* `Phrase`, `Link` — casts in front of a chain, and what stands behind its word.
* `Phrase.write` — the text of a phrase, with more text behind it.

## Main statements

* `Phrase.write_inj` — the text of a phrase determines it, and where it ends.
-/

namespace ShaderLowering

/-! ## Words -/

/-- Whether a character stands between the words of a phrase. -/
def isDelimiter (c : Char) : Bool :=
  ['(', ')', '[', ']', '.', ','].contains c

/-- Whether a text is a word: not empty, and without delimiters. -/
def isWord (text : String) : Bool :=
  !text.toList.isEmpty && text.toList.all (!isDelimiter ·)

/-- Whether a word is at its end in front of a text. -/
def endsWord (rest : List Char) : Prop :=
  ∀ c ∈ rest.head?, isDelimiter c = true

theorem endsWord_cons {c : Char} (h : isDelimiter c = true) (rest : List Char) :
    endsWord (c :: rest) := by
  intro d hd
  cases hd
  exact h

/-- What consists of certain characters ends where another one stands. -/
theorem takeWhile_append_inj {p : Char → Bool} {u v k l : List Char}
    (hu : ∀ c ∈ u, p c = true) (hv : ∀ c ∈ v, p c = true) (hk : ∀ c ∈ k.head?, p c = false)
    (hl : ∀ c ∈ l.head?, p c = false) (h : u ++ k = v ++ l) : u = v ∧ k = l := by
  have front {w m : List Char} (hw : ∀ c ∈ w, p c = true) (hm : ∀ c ∈ m.head?, p c = false) :
      (w ++ m).takeWhile p = w := by
    rw [List.takeWhile_append_of_pos hw]
    cases m with
    | nil => simp
    | cons c m => simp [hm c rfl]
  have same : u = v := by
    rw [← front hu hk, h, front hv hl]
  rw [same, List.append_cancel_left_eq] at h
  exact ⟨same, h⟩

/-- Two words in front of delimiters are the same when the texts are. -/
theorem word_append_inj {u v : String} (hu : isWord u = true) (hv : isWord v = true)
    {k l : List Char} (hk : endsWord k) (hl : endsWord l)
    (h : u.toList ++ k = v.toList ++ l) : u = v ∧ k = l := by
  rw [isWord, Bool.and_eq_true, List.all_eq_true] at hu hv
  obtain ⟨same, rest⟩ := takeWhile_append_inj hu.2 hv.2 (fun c hc => by simp [hk c hc])
    (fun c hc => by simp [hl c hc]) h
  exact ⟨String.toList_inj.1 same, rest⟩

/-- A word begins with a character that is not a delimiter. -/
theorem exists_cons_of_isWord {text : String} (h : isWord text = true) :
    ∃ c cs, text.toList = c :: cs ∧ isDelimiter c = false := by
  rw [isWord, Bool.and_eq_true, List.all_eq_true] at h
  cases ht : text.toList with
  | nil => simp [ht] at h
  | cons c cs => exact ⟨c, cs, rfl, by simpa using h.2 c (by simp [ht])⟩

/-! ## Phrases -/

mutual

/-- Casts in front of a chain. -/
inductive Phrase where
  | cast (type : String) (operand : Phrase)
  | chain (word : String) (links : List Link)

/-- What can stand behind a chain and lengthens it. -/
inductive Link where
  | member (name : String)
  | call (args : List Phrase)
  | index (position : Phrase)

end

/-- The comma between one argument and the next. -/
def Phrase.separator : List Phrase → List Char
  | [] => []
  | _ :: _ => [',', ' ']

mutual

/-- The text of a phrase, with more text behind it. -/
def Phrase.write : Phrase → List Char → List Char
  | .cast type operand, rest => '(' :: (type.toList ++ ')' :: operand.write rest)
  | .chain word links, rest => word.toList ++ Link.writeAll links rest
termination_by structural p => p

/-- The text of a link, with more text behind it. -/
def Link.write : Link → List Char → List Char
  | .member name, rest => '.' :: (name.toList ++ rest)
  | .call args, rest => '(' :: Phrase.writeAll args (')' :: rest)
  | .index position, rest => '[' :: position.write (']' :: rest)
termination_by structural l => l

/-- The text of several links, with more text behind it. -/
def Link.writeAll : List Link → List Char → List Char
  | [], rest => rest
  | link :: links, rest => link.write (Link.writeAll links rest)
termination_by structural ls => ls

/-- The text of several arguments, with more text behind it. -/
def Phrase.writeAll : List Phrase → List Char → List Char
  | [], rest => rest
  | p :: ps, rest => p.write (Phrase.separator ps ++ Phrase.writeAll ps rest)
termination_by structural ps => ps

end

mutual

/-- Whether every name in a phrase is a word. -/
def Phrase.isSpelled : Phrase → Bool
  | .cast type operand => isWord type && operand.isSpelled
  | .chain word links => isWord word && Link.allSpelled links
termination_by structural p => p

/-- Whether every name in a link is a word. -/
def Link.isSpelled : Link → Bool
  | .member name => isWord name
  | .call args => Phrase.allSpelled args
  | .index position => position.isSpelled
termination_by structural l => l

/-- Whether every name in several links is a word. -/
def Link.allSpelled : List Link → Bool
  | [] => true
  | link :: links => link.isSpelled && Link.allSpelled links
termination_by structural ls => ls

/-- Whether every name in several phrases is a word. -/
def Phrase.allSpelled : List Phrase → Bool
  | [] => true
  | p :: ps => p.isSpelled && Phrase.allSpelled ps
termination_by structural ps => ps

end

/-! ## Where a phrase ends -/

/-- Whether a phrase is at its end in front of a text: what begins there closes
what the phrase stands in, and cannot lengthen it. -/
def endsPhrase (rest : List Char) : Prop :=
  ∀ c ∈ rest.head?, c = ')' ∨ c = ']' ∨ c = ','

theorem endsPhrase_nil : endsPhrase [] := by
  intro c hc
  cases hc

theorem endsPhrase_cons {c : Char} (h : c = ')' ∨ c = ']' ∨ c = ',') (rest : List Char) :
    endsPhrase (c :: rest) := by
  intro d hd
  cases hd
  exact h

/-- A word is at its end where a phrase is. -/
theorem endsWord_of_endsPhrase {rest : List Char} (h : endsPhrase rest) : endsWord rest := by
  intro c hc
  rcases h c hc with rfl | rfl | rfl <;> rfl

/-- A phrase is at its end in front of the next argument. -/
theorem endsPhrase_separator (ps : List Phrase) (rest : List Char) :
    endsPhrase (Phrase.separator ps ++ Phrase.writeAll ps (')' :: rest)) := by
  cases ps with
  | nil => exact endsPhrase_cons (.inl rfl) _
  | cons p ps => exact endsPhrase_cons (.inr (.inr rfl)) _

/-- A link begins with a character that ends a word and does not end a phrase. -/
theorem Link.exists_write_eq_cons (link : Link) (rest : List Char) :
    ∃ c cs, link.write rest = c :: cs ∧ isDelimiter c = true ∧ ¬ endsPhrase (c :: cs) := by
  have opens {c : Char} (cs : List Char) (h : ¬ (c = ')' ∨ c = ']' ∨ c = ',')) :
      ¬ endsPhrase (c :: cs) := fun ends => h (ends c rfl)
  cases link with
  | member name => exact ⟨'.', _, rfl, rfl, opens _ (by decide)⟩
  | call args => exact ⟨'(', _, rfl, rfl, opens _ (by decide)⟩
  | index position => exact ⟨'[', _, rfl, rfl, opens _ (by decide)⟩

theorem Link.not_endsPhrase_write (link : Link) (rest : List Char) :
    ¬ endsPhrase (link.write rest) := by
  obtain ⟨c, cs, hw, -, hn⟩ := link.exists_write_eq_cons rest
  rwa [hw]

/-- A word is at its end in front of links. -/
theorem Link.endsWord_writeAll (links : List Link) {rest : List Char} (h : endsPhrase rest) :
    endsWord (Link.writeAll links rest) := by
  cases links with
  | nil => exact endsWord_of_endsPhrase h
  | cons link links =>
    obtain ⟨c, cs, hw, hd, -⟩ := link.exists_write_eq_cons (Link.writeAll links rest)
    rw [Link.writeAll, hw]
    exact endsWord_cons hd cs

/-- No phrase begins where another one ends. -/
theorem Phrase.not_endsPhrase_write {p : Phrase} (h : p.isSpelled = true) (rest : List Char) :
    ¬ endsPhrase (p.write rest) := by
  intro ends
  cases p with
  | cast type operand => exact absurd (ends '(' rfl) (by decide)
  | chain word links =>
    rw [Phrase.isSpelled, Bool.and_eq_true] at h
    obtain ⟨c, cs, hw, hc⟩ := exists_cons_of_isWord h.1
    rw [Phrase.write, hw] at ends
    rcases ends c rfl with rfl | rfl | rfl <;> exact absurd hc (by decide)

/-- A cast and a chain begin differently. -/
theorem Phrase.write_cast_ne_write_chain {word : String} (h : isWord word = true)
    (type : String) (operand : Phrase) (links : List Link) (k l : List Char) :
    (Phrase.cast type operand).write k ≠ (Phrase.chain word links).write l := by
  intro same
  obtain ⟨c, cs, hw, hc⟩ := exists_cons_of_isWord h
  rw [Phrase.write, Phrase.write, hw, List.cons_append] at same
  obtain ⟨rfl, -⟩ := List.cons.inj same
  exact absurd hc (by decide)

/-! ## A text has one reading -/

mutual

/-- The text of a phrase determines the phrase, and where it ends. -/
theorem Phrase.write_inj : ∀ (p q : Phrase) {k l : List Char}, p.isSpelled = true →
    q.isSpelled = true → endsPhrase k → endsPhrase l → p.write k = q.write l → p = q ∧ k = l
  | .cast _ o, .cast _ o', _, _, hp, hq, hk, hl, h => by
    rw [Phrase.isSpelled, Bool.and_eq_true] at hp hq
    rw [Phrase.write, Phrase.write] at h
    obtain ⟨rfl, behind⟩ := word_append_inj hp.1 hq.1 (endsWord_cons rfl _)
      (endsWord_cons rfl _) (List.cons.inj h).2
    obtain ⟨rfl, hr⟩ := Phrase.write_inj o o' hp.2 hq.2 hk hl (List.cons.inj behind).2
    exact ⟨rfl, hr⟩
  | .cast _ _, .chain _ _, _, _, _, hq, _, _, h => by
    rw [Phrase.isSpelled, Bool.and_eq_true] at hq
    exact absurd h (Phrase.write_cast_ne_write_chain hq.1 _ _ _ _ _)
  | .chain _ _, .cast _ _, _, _, hp, _, _, _, h => by
    rw [Phrase.isSpelled, Bool.and_eq_true] at hp
    exact absurd h.symm (Phrase.write_cast_ne_write_chain hp.1 _ _ _ _ _)
  | .chain _ ls, .chain _ ms, _, _, hp, hq, hk, hl, h => by
    rw [Phrase.isSpelled, Bool.and_eq_true] at hp hq
    rw [Phrase.write, Phrase.write] at h
    obtain ⟨rfl, behind⟩ := word_append_inj hp.1 hq.1 (Link.endsWord_writeAll ls hk)
      (Link.endsWord_writeAll ms hl) h
    obtain ⟨rfl, hr⟩ := Link.writeAll_inj ls ms hp.2 hq.2 hk hl behind
    exact ⟨rfl, hr⟩
termination_by structural p => p

/-- The text of a link determines the link, in front of more links. -/
theorem Link.write_inj : ∀ (a b : Link) {k l : List Char}, a.isSpelled = true →
    b.isSpelled = true → endsWord k → endsWord l → a.write k = b.write l → a = b ∧ k = l
  | .member _, .member _, _, _, ha, hb, hk, hl, h => by
    rw [Link.isSpelled] at ha hb
    rw [Link.write, Link.write] at h
    obtain ⟨rfl, hr⟩ := word_append_inj ha hb hk hl (List.cons.inj h).2
    exact ⟨rfl, hr⟩
  | .call ps, .call qs, _, _, ha, hb, _, _, h => by
    rw [Link.isSpelled] at ha hb
    rw [Link.write, Link.write] at h
    obtain ⟨rfl, hr⟩ := Phrase.writeAll_inj ps qs ha hb (List.cons.inj h).2
    exact ⟨rfl, hr⟩
  | .index p, .index q, _, _, ha, hb, _, _, h => by
    rw [Link.isSpelled] at ha hb
    rw [Link.write, Link.write] at h
    obtain ⟨rfl, closed⟩ := Phrase.write_inj p q ha hb (endsPhrase_cons (.inr (.inl rfl)) _)
      (endsPhrase_cons (.inr (.inl rfl)) _) (List.cons.inj h).2
    exact ⟨rfl, (List.cons.inj closed).2⟩
  | .member _, .call _, _, _, _, _, _, _, h | .member _, .index _, _, _, _, _, _, _, h
  | .call _, .member _, _, _, _, _, _, _, h | .call _, .index _, _, _, _, _, _, _, h
  | .index _, .member _, _, _, _, _, _, _, h | .index _, .call _, _, _, _, _, _, _, h => by
    rw [Link.write, Link.write] at h
    exact absurd (List.cons.inj h).1 (by decide)
termination_by structural a => a

/-- The text of links determines them, in front of what ends a phrase. -/
theorem Link.writeAll_inj : ∀ (ls ms : List Link) {k l : List Char}, Link.allSpelled ls = true →
    Link.allSpelled ms = true → endsPhrase k → endsPhrase l →
      Link.writeAll ls k = Link.writeAll ms l → ls = ms ∧ k = l
  | [], [], _, _, _, _, _, _, h => ⟨rfl, h⟩
  | [], m :: ms, k, l, _, _, hk, _, h => by
    rw [Link.writeAll, Link.writeAll] at h
    exact absurd (h ▸ hk) (m.not_endsPhrase_write _)
  | a :: ls, [], k, l, _, _, _, hl, h => by
    rw [Link.writeAll, Link.writeAll] at h
    exact absurd (h ▸ hl) (a.not_endsPhrase_write _)
  | a :: ls, b :: ms, _, _, ha, hb, hk, hl, h => by
    rw [Link.allSpelled, Bool.and_eq_true] at ha hb
    obtain ⟨rfl, behind⟩ := Link.write_inj a b ha.1 hb.1 (Link.endsWord_writeAll ls hk)
      (Link.endsWord_writeAll ms hl) h
    obtain ⟨rfl, hr⟩ := Link.writeAll_inj ls ms ha.2 hb.2 hk hl behind
    exact ⟨rfl, hr⟩
termination_by structural ls => ls

/-- The text of arguments determines them, in front of the closing parenthesis. -/
theorem Phrase.writeAll_inj : ∀ (ps qs : List Phrase) {k l : List Char},
    Phrase.allSpelled ps = true → Phrase.allSpelled qs = true →
      Phrase.writeAll ps (')' :: k) = Phrase.writeAll qs (')' :: l) → ps = qs ∧ k = l
  | [], [], _, _, _, _, h => ⟨rfl, (List.cons.inj h).2⟩
  | [], q :: qs, k, _, _, hq, h => by
    rw [Phrase.allSpelled, Bool.and_eq_true] at hq
    rw [Phrase.writeAll, Phrase.writeAll] at h
    exact absurd (h ▸ endsPhrase_cons (.inl rfl) k) (Phrase.not_endsPhrase_write hq.1 _)
  | p :: ps, [], _, l, hp, _, h => by
    rw [Phrase.allSpelled, Bool.and_eq_true] at hp
    rw [Phrase.writeAll, Phrase.writeAll] at h
    exact absurd (h ▸ endsPhrase_cons (.inl rfl) l) (Phrase.not_endsPhrase_write hp.1 _)
  | p :: ps, q :: qs, k, l, hp, hq, h => by
    rw [Phrase.allSpelled, Bool.and_eq_true] at hp hq
    rw [Phrase.writeAll, Phrase.writeAll] at h
    obtain ⟨rfl, behind⟩ := Phrase.write_inj p q hp.1 hq.1 (endsPhrase_separator ps k)
      (endsPhrase_separator qs l) h
    cases ps with
    | nil =>
      cases qs with
      | nil => exact ⟨rfl, (List.cons.inj behind).2⟩
      | cons q' qs => exact absurd (List.cons.inj behind).1 (by decide)
    | cons p' ps =>
      cases qs with
      | nil => exact absurd (List.cons.inj behind).1 (by decide)
      | cons q' qs =>
        obtain ⟨hps, hr⟩ := Phrase.writeAll_inj (p' :: ps) (q' :: qs) hp.2 hq.2
          (List.append_cancel_left behind)
        exact ⟨by rw [hps], hr⟩
termination_by structural ps => ps

end

end ShaderLowering
