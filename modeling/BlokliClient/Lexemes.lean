import BlokliClient.Document

/-!
# GraphQL text, lexeme by lexeme

A GraphQL document is read as a list of lexemes: names, variable references,
string literals, and single characters. The text passes of `Document` know only
the string literals, and work on byte offsets. This file says what they do to
lexemes.

* `Reads t ls rest` is the lexical grammar: `t` starts with the lexemes `ls`, and
  `rest` is left. A name or an empty string ends where the actual rest says so,
  so readings compose (`Reads.append`), and survive a change of the rest that
  they do not look at (`Reads.replace`). A text has one reading
  (`Reads.deterministic`).
* `stringLiteralLen` finds the end of every closed literal, quoted or block
  (`stringLiteralLen_literal`).
* Renaming the variables of a text renames the references among its lexemes and
  nothing else (`renameVariables_reads`), and the result reads as it was meant
  (`Reads.prefixed`).
* `matchingParen` finds the parenthesis that closes balanced lexemes
  (`matchingParen_reads`).

Comments are not part of the grammar: no lexeme contains a `#` outside a literal.
-/

namespace Blokli

/-! ### Slices at the seam of two texts -/

/-- Lengths add up. -/
theorem byteLen_append (s t : Text) : byteLen (s ++ t) = byteLen s + byteLen t := by
  induction s with
  | nil => exact (Nat.zero_add _).symm
  | cons c s ih =>
    rw [List.cons_append, byteLen, byteLen, ih, Nat.add_assoc]

/-- Every character has a length. -/
theorem byteLen_cons_pos (c : Char) (t : Text) : byteLen (c :: t) ≠ 0 := by
  have h_pos := c.utf8Size_pos
  rw [byteLen]
  omega

/-- The part behind a text. -/
theorem sliceFrom_append (s t : Text) : sliceFrom (s ++ t) (byteLen s) = some t := by
  induction s with
  | nil => cases t <;> rfl
  | cons c s ih =>
    have h_pos := c.utf8Size_pos
    obtain ⟨n, h_n⟩ := Nat.exists_eq_succ_of_ne_zero (byteLen_cons_pos c s)
    rw [List.cons_append, h_n, sliceFrom, ← Nat.succ_eq_add_one, ← h_n, byteLen,
      if_pos (Nat.le_add_right _ _), Nat.add_sub_cancel_left]
    exact ih

/-- The part up to the end of a text. -/
theorem sliceTo_append (s t : Text) : sliceTo (s ++ t) (byteLen s) = some s := by
  induction s with
  | nil => cases t <;> rfl
  | cons c s ih =>
    obtain ⟨n, h_n⟩ := Nat.exists_eq_succ_of_ne_zero (byteLen_cons_pos c s)
    rw [List.cons_append, h_n, sliceTo, ← Nat.succ_eq_add_one, ← h_n, byteLen,
      if_pos (Nat.le_add_right _ _), Nat.add_sub_cancel_left, ih]
    rfl

/-- A range that starts and ends between characters is the text in between. -/
theorem sliceRange_append (s m t : Text) :
    sliceRange (s ++ m ++ t) (byteLen s) (byteLen (s ++ m)) = some m := by
  unfold sliceRange
  rw [sliceTo_append, Option.bind_some, sliceFrom_append]

/-- The first match is at the seam. -/
theorem findChar_append {p : Char → Bool} {s : Text} (h : ∀ c ∈ s, p c = false) (c : Char)
    (t : Text) (h_c : p c = true) : findChar p (s ++ c :: t) = some (byteLen s) := by
  induction s with
  | nil =>
    change findChar p (c :: t) = some 0
    rw [findChar, if_pos h_c]
  | cons d s ih =>
    obtain ⟨h_d, h_s⟩ := List.forall_mem_cons.mp h
    rw [List.cons_append, findChar, h_d, ih h_s]
    rfl

/-- A character that is not there is not found from the left. -/
theorem findChar_none {p : Char → Bool} {s : Text} (h : ∀ c ∈ s, p c = false) :
    findChar p s = none := by
  induction s with
  | nil => rfl
  | cons d s ih =>
    obtain ⟨h_d, h_s⟩ := List.forall_mem_cons.mp h
    rw [findChar, h_d, ih h_s]
    rfl

/-- A character that is not there is not found from the right. -/
theorem rfindChar_none {p : Char → Bool} {s : Text} (h : ∀ c ∈ s, p c = false) :
    rfindChar p s = none := by
  induction s with
  | nil => rfl
  | cons d s ih =>
    obtain ⟨h_d, h_s⟩ := List.forall_mem_cons.mp h
    rw [rfindChar, ih h_s, h_d]
    rfl

/-- The last match is at the seam. -/
theorem rfindChar_append {p : Char → Bool} (s : Text) {c : Char} {t : Text} (h_c : p c = true)
    (h : ∀ d ∈ t, p d = false) : rfindChar p (s ++ c :: t) = some (byteLen s) := by
  induction s with
  | nil =>
    change rfindChar p (c :: t) = some 0
    rw [rfindChar, rfindChar_none h, h_c]
    rfl
  | cons d s ih =>
    rw [List.cons_append, rfindChar, ih]
    rfl

/-! ### String literals -/

/-- What may stand between the quotes of a quoted string. -/
inductive QuotedBody : Text → Prop
  | nil : QuotedBody []
  | char {c : Char} {t : Text} (quote : c ≠ '"') (backslash : c ≠ '\\') (rest : QuotedBody t) :
      QuotedBody (c :: t)
  | escape {c : Char} {t : Text} (rest : QuotedBody t) : QuotedBody ('\\' :: c :: t)

/-- What may stand between the triple quotes of a block string: it ends at the
first triple quote that is not escaped. -/
inductive BlockBody : Text → Prop
  | nil : BlockBody []
  | char {c : Char} {t : Text} (notClosed : ¬ tripleQuote <+: c :: (t ++ tripleQuote))
      (notEscaped : ¬ '\\' :: tripleQuote <+: c :: (t ++ tripleQuote)) (rest : BlockBody t) :
      BlockBody (c :: t)
  | escape {t : Text} (rest : BlockBody t) : BlockBody ('\\' :: tripleQuote ++ t)

/-- A GraphQL string literal, with its quotes. -/
inductive StringLiteral : Text → Prop
  | quoted {t : Text} (body : QuotedBody t) : StringLiteral ('"' :: (t ++ ['"']))
  | block {t : Text} (body : BlockBody t) : StringLiteral (tripleQuote ++ t ++ tripleQuote)

/-- The empty quoted string. It must not be followed by a quote. -/
def emptyString : Text := ['"', '"']

/-- The closing quote of a string is found behind its body. -/
theorem quotedEnd_append {t : Text} (h : QuotedBody t) (rest : Text) (offset : ℕ) :
    quotedEnd false offset (t ++ '"' :: rest) = some (offset + byteLen t) := by
  induction h generalizing offset with
  | nil => rfl
  | @char c t h_quote h_backslash _ ih =>
    rw [List.cons_append, quotedEnd, if_neg h_backslash, if_neg h_quote, ih, byteLen,
      Nat.add_assoc]
  | @escape c t _ ih =>
    have h_backslash : Char.utf8Size '\\' = 1 := rfl
    rw [List.cons_append, List.cons_append, quotedEnd, if_pos rfl, quotedEnd, ih, byteLen, byteLen,
      Nat.add_assoc, Nat.add_assoc]

/-- The first triple quote behind the start of a block body closes the string, or
is escaped. -/
theorem findText_block {t : Text} (h : BlockBody t) (rest : Text) :
    (findText tripleQuote (t ++ tripleQuote ++ rest) = some (byteLen t) ∧
        t.getLast? ≠ some '\\') ∨
      ∃ t₁ t₂, t = t₁ ++ ('\\' :: tripleQuote ++ t₂) ∧ BlockBody t₂ ∧
        findText tripleQuote (t ++ tripleQuote ++ rest) = some (byteLen (t₁ ++ ['\\'])) := by
  induction h with
  | nil => exact Or.inl ⟨rfl, fun h => by cases h⟩
  | @char c t h_closed h_escaped _ ih =>
    -- the next four characters do not depend on what follows the string
    have h_before : c :: (t ++ tripleQuote) <+: c :: (t ++ tripleQuote ++ rest) :=
      List.cons_prefix_cons.mpr ⟨rfl, List.prefix_append _ _⟩
    have h_length : tripleQuote.length ≤ (c :: (t ++ tripleQuote)).length := by
      rw [List.length_cons, List.length_append]
      omega
    have h_next : tripleQuote.isPrefixOf (c :: (t ++ tripleQuote ++ rest)) = false := by
      rw [← Bool.not_eq_true, List.isPrefixOf_iff_prefix]
      exact fun h => h_closed (List.prefix_of_prefix_length_le h h_before h_length)
    have h_find : findText tripleQuote (c :: t ++ tripleQuote ++ rest) =
        (findText tripleQuote (t ++ tripleQuote ++ rest)).map (c.utf8Size + ·) := by
      rw [List.cons_append, List.cons_append, findText, h_next]
      rfl
    rw [h_find]
    rcases ih with ⟨h_found, h_last⟩ | ⟨t₁, t₂, rfl, h_t₂, h_found⟩
    · refine Or.inl ⟨by rw [h_found]; rfl, ?_⟩
      cases t with
      | nil =>
        -- a backslash before the closing quotes would escape them
        intro h_c
        obtain rfl : c = '\\' := Option.some.inj h_c
        exact h_escaped (List.prefix_refl _)
      | cons d t => exact h_last
    · exact Or.inr ⟨c :: t₁, t₂, rfl, h_t₂, by rw [h_found]; rfl⟩
  | @escape t h_rest _ => exact Or.inr ⟨[], t, rfl, h_rest, rfl⟩

/-- A block string ends behind its body. -/
theorem blockStringEnd_append {t : Text} (h : BlockBody t) (rest before : Text)
    (h_before : before.getLast? ≠ some '\\') (fuel : ℕ) (h_fuel : t.length < fuel) :
    blockStringEnd (before ++ (t ++ tripleQuote ++ rest)) fuel (byteLen before) =
      some (some (byteLen (before ++ t))) := by
  induction fuel generalizing t before with
  | zero => exact absurd h_fuel (Nat.not_lt_zero _)
  | succ fuel ih =>
    rw [blockStringEnd, sliceFrom_append]
    dsimp only [Option.bind_eq_bind, Option.bind_some]
    rcases findText_block h rest with ⟨h_found, h_last⟩ | ⟨t₁, t₂, rfl, h_t₂, h_found⟩
    · -- these quotes end the string
      rw [h_found]
      dsimp only
      rw [← byteLen_append, List.append_assoc, ← List.append_assoc, sliceTo_append]
      have h_end : (before ++ t).getLast? ≠ some '\\' := by
        cases t with
        | nil => rw [List.append_nil]; exact h_before
        | cons d t => rw [List.getLast?_append_of_ne_nil _ (List.cons_ne_nil d t)]; exact h_last
      change (if (before ++ t).getLast? = some '\\' then _ else _) = _
      rw [if_neg h_end]
    · -- the quotes that were found are escaped: the search goes on behind them
      let escaped : Text := before ++ (t₁ ++ ['\\'])
      have h_text : before ++ (t₁ ++ ('\\' :: tripleQuote ++ t₂) ++ tripleQuote ++ rest) =
          escaped ++ (tripleQuote ++ (t₂ ++ tripleQuote ++ rest)) := by
        simp [escaped]
      have h_last : escaped.getLast? = some '\\' := by simp [escaped]
      have h_next := ih h_t₂ (escaped ++ tripleQuote) (by simp [tripleQuote])
        (by simp only [List.length_append, List.length_cons] at h_fuel; omega)
      rw [h_found]
      dsimp only
      rw [← byteLen_append, h_text, sliceTo_append]
      change (if escaped.getLast? = some '\\' then _ else _) = _
      rw [if_pos h_last]
      have h_offset : byteLen escaped + 3 = byteLen (escaped ++ tripleQuote) :=
        (byteLen_append escaped tripleQuote).symm
      rw [h_offset, ← List.append_assoc escaped, h_next]
      simp [escaped]

/-- A pattern in front is stripped. -/
theorem stripPrefix_append (pat t : Text) : stripPrefix pat (pat ++ t) = some t := by
  unfold stripPrefix
  rw [if_pos (List.isPrefixOf_iff_prefix.mpr (List.prefix_append pat t)), List.drop_left]

/-- No literal starts here. -/
theorem stringLiteralLen_plain {c : Char} (h : c ≠ '"') (t : Text) :
    stringLiteralLen (c :: t) = some none := by
  have h_before : stripPrefix tripleQuote (c :: t) = none := by
    unfold stripPrefix
    refine if_neg fun h_pre => h ?_
    exact (List.cons_prefix_cons.mp (List.isPrefixOf_iff_prefix.mp h_pre)).1.symm
  unfold stringLiteralLen
  rw [h_before]
  dsimp only
  split
  · next h_cons => exact absurd (List.cons.inj h_cons).1 h
  · rfl

/-- **A closed literal is recognised**, whatever follows it. -/
theorem stringLiteralLen_literal {w : Text} (h : StringLiteral w) {rest : Text}
    (h_rest : w = emptyString → rest.head? ≠ some '"') :
    stringLiteralLen (w ++ rest) = some (some (byteLen w)) := by
  cases h with
  -- a quoted string is no block string, also not with what follows it
  | @quoted t body =>
    have h_before : stripPrefix tripleQuote ('"' :: (t ++ ['"']) ++ rest) = none := by
      unfold stripPrefix
      refine if_neg fun h_pre => ?_
      have h_tail := (List.cons_prefix_cons.mp (List.isPrefixOf_iff_prefix.mp h_pre)).2
      cases body with
      | nil =>
        obtain ⟨t', h_t'⟩ := (List.cons_prefix_cons.mp h_tail).2
        have h_head : rest.head? = some '"' := by
          obtain rfl : '"' :: t' = rest := h_t'
          rfl
        exact h_rest rfl h_head
      -- its first character is no quote
      | char h_quote _ _ => exact h_quote (List.cons_prefix_cons.mp h_tail).1.symm
      -- nor is an escape
      | escape _ => exact absurd (List.cons_prefix_cons.mp h_tail).1 (by decide)
    have h_end : quotedEnd false 0 (t ++ ['"'] ++ rest) = some (byteLen t) := by
      rw [List.append_assoc]
      exact (quotedEnd_append body rest 0).trans (congrArg some (Nat.zero_add _))
    rw [List.cons_append] at h_before ⊢
    rw [stringLiteralLen_quoted h_before, h_end]
    have h_quote : Char.utf8Size '"' = 1 := rfl
    have h_length : byteLen ('"' :: (t ++ ['"'])) = 1 + (byteLen t + 1) := by
      rw [byteLen, byteLen_append, h_quote]
      rfl
    rw [h_length, ← Nat.add_assoc]
    rfl
  | @block t body =>
    have h_end := blockStringEnd_append body rest [] (fun h => by cases h)
      ((t ++ tripleQuote ++ rest).length + 1)
      (by simp only [List.length_append]; omega)
    rw [List.append_assoc, List.append_assoc, stringLiteralLen_block (stripPrefix_append ..)]
    rw [List.append_assoc] at h_end
    rw [show blockStringEnd (t ++ (tripleQuote ++ rest)) _ 0 = _ from h_end]
    have h_length : byteLen (tripleQuote ++ t ++ tripleQuote) = 3 + byteLen t + 3 := by
      rw [byteLen_append, byteLen_append]
      rfl
    rw [h_length]
    rfl

/-! ### Lexemes -/

inductive Lexeme
  /-- A name, or a number: a maximal run of name characters. -/
  | name (w : Text)
  /-- A variable reference, without its `$`. -/
  | reference (w : Text)
  /-- A string literal, with its quotes. -/
  | literal (w : Text)
  /-- White space, a comma, a bracket or another punctuator. -/
  | other (c : Char)
  deriving DecidableEq

def Lexeme.text : Lexeme → Text
  | .name w => w
  | .reference w => '$' :: w
  | .literal w => w
  | .other c => [c]

def textOf (ls : List Lexeme) : Text := ls.flatMap Lexeme.text

/-- No lexemes spell nothing. -/
@[simp] theorem textOf_nil : textOf [] = [] := rfl

/-- Lexemes are spelled one after the other. -/
@[simp] theorem textOf_cons (l : Lexeme) (ls : List Lexeme) :
    textOf (l :: ls) = l.text ++ textOf ls := rfl

/-- Lists of lexemes are spelled one after the other. -/
@[simp] theorem textOf_append (ls ls' : List Lexeme) :
    textOf (ls ++ ls') = textOf ls ++ textOf ls' := List.flatMap_append

def IsName (w : Text) : Prop := w ≠ [] ∧ ∀ c ∈ w, isNameChar c = true

/-- Names can be checked character by character. -/
theorem IsName.of_all {w : Text} (h : (!w.isEmpty && w.all isNameChar) = true) : IsName w := by
  obtain ⟨h_empty, h_all⟩ := Bool.and_eq_true_iff.mp h
  refine ⟨?_, List.all_eq_true.mp h_all⟩
  rintro rfl
  cases h_empty

/-- No name goes on in `t`. -/
def Stops (t : Text) : Prop := ∀ c, t.head? = some c → isNameChar c = false

/-- A character that is a lexeme of its own. -/
def IsOther (c : Char) : Prop := isNameChar c = false ∧ c ≠ '"' ∧ c ≠ '$' ∧ c ≠ '#'

instance (c : Char) : Decidable (IsOther c) := inferInstanceAs (Decidable (_ ∧ _))

/-- **The lexical grammar.** `t` starts with the lexemes `ls`, and `rest` is left. -/
inductive Reads : Text → List Lexeme → Text → Prop
  | done {rest : Text} : Reads rest [] rest
  | name {w t rest : Text} {ls : List Lexeme} (is_name : IsName w) (stops : Stops t)
      (next : Reads t ls rest) : Reads (w ++ t) (.name w :: ls) rest
  | reference {w t rest : Text} {ls : List Lexeme} (is_name : IsName w) (stops : Stops t)
      (next : Reads t ls rest) : Reads ('$' :: (w ++ t)) (.reference w :: ls) rest
  | literal {w t rest : Text} {ls : List Lexeme} (closed : StringLiteral w)
      (apart : w = emptyString → t.head? ≠ some '"') (next : Reads t ls rest) :
      Reads (w ++ t) (.literal w :: ls) rest
  | other {c : Char} {t rest : Text} {ls : List Lexeme} (is_other : IsOther c)
      (next : Reads t ls rest) : Reads (c :: t) (.other c :: ls) rest

namespace Reads

variable {t m rest rest' : Text} {ls ls' : List Lexeme}

/-- What was read is spelled by its lexemes. -/
theorem text_eq (h : Reads t ls rest) : t = textOf ls ++ rest := by
  induction h with
  | done => rfl
  | name _ _ _ ih => rw [textOf_cons, List.append_assoc, ← ih]; rfl
  | reference _ _ _ ih => rw [textOf_cons, List.append_assoc, ← ih]; rfl
  | literal _ _ _ ih => rw [textOf_cons, List.append_assoc, ← ih]; rfl
  | other _ _ ih => rw [textOf_cons, List.append_assoc, ← ih]; rfl

/-- **Readings compose.** -/
theorem append (h : Reads t ls m) (h' : Reads m ls' rest) : Reads t (ls ++ ls') rest := by
  induction h with
  | done => exact h'
  | name h_name h_stops _ ih => exact .name h_name h_stops (ih h')
  | reference h_name h_stops _ ih => exact .reference h_name h_stops (ih h')
  | literal h_closed h_apart _ ih => exact .literal h_closed h_apart (ih h')
  | other h_other _ ih => exact .other h_other (ih h')

/-- A reading in two parts. -/
theorem split (h : Reads t (ls ++ ls') rest) : ∃ m, Reads t ls m ∧ Reads m ls' rest := by
  generalize h_all : ls ++ ls' = all at h
  -- by how the first lexeme is read; all of it is in front of the cut, or nothing is
  induction h generalizing ls with
  | done =>
    obtain ⟨rfl, rfl⟩ := List.append_eq_nil_iff.mp h_all
    exact ⟨_, .done, .done⟩
  | name h_name h_stops h_next ih =>
    rcases List.append_eq_cons_iff.mp h_all with ⟨rfl, rfl⟩ | ⟨ls₁, rfl, rfl⟩
    · exact ⟨_, .done, .name h_name h_stops h_next⟩
    · obtain ⟨m, h₁, h₂⟩ := ih rfl
      exact ⟨m, .name h_name h_stops h₁, h₂⟩
  | reference h_name h_stops h_next ih =>
    rcases List.append_eq_cons_iff.mp h_all with ⟨rfl, rfl⟩ | ⟨ls₁, rfl, rfl⟩
    · exact ⟨_, .done, .reference h_name h_stops h_next⟩
    · obtain ⟨m, h₁, h₂⟩ := ih rfl
      exact ⟨m, .reference h_name h_stops h₁, h₂⟩
  | literal h_closed h_apart h_next ih =>
    rcases List.append_eq_cons_iff.mp h_all with ⟨rfl, rfl⟩ | ⟨ls₁, rfl, rfl⟩
    · exact ⟨_, .done, .literal h_closed h_apart h_next⟩
    · obtain ⟨m, h₁, h₂⟩ := ih rfl
      exact ⟨m, .literal h_closed h_apart h₁, h₂⟩
  | other h_other h_next ih =>
    rcases List.append_eq_cons_iff.mp h_all with ⟨rfl, rfl⟩ | ⟨ls₁, rfl, rfl⟩
    · exact ⟨_, .done, .other h_other h_next⟩
    · obtain ⟨m, h₁, h₂⟩ := ih rfl
      exact ⟨m, .other h_other h₁, h₂⟩

/-- A rest that may take the place of another: it starts with the same
character, or with one that no lexeme looks at. -/
def Replaces (rest' rest : Text) : Prop :=
  ∀ c, rest'.head? = some c → rest.head? = some c ∨ (isNameChar c = false ∧ c ≠ '"')

/-- Replacing what follows does not change the first character into one that matters. -/
theorem head?_replaced (h : Reads t ls rest) (h_rest : Replaces rest' rest) {c : Char}
    (h_c : (textOf ls ++ rest').head? = some c) :
    t.head? = some c ∨ (isNameChar c = false ∧ c ≠ '"') := by
  rw [h.text_eq]
  cases h_text : textOf ls with
  | nil =>
    rw [h_text] at h_c
    exact h_rest c h_c
  | cons d s =>
    rw [h_text] at h_c
    exact Or.inl h_c

/-- **What is read does not depend on the rest**, but for the end of its last lexeme. -/
theorem replace (h : Reads t ls rest) (h_rest : Replaces rest' rest) :
    Reads (textOf ls ++ rest') ls rest' := by
  induction h with
  -- what follows a lexeme decides where it ends, so the new rest must not prolong it
  | done => exact .done
  | @name w t rest ls h_name h_stops h_next ih =>
    rw [textOf_cons, List.append_assoc]
    refine .name h_name (fun c h_c => ?_) (ih h_rest)
    rcases h_next.head?_replaced h_rest h_c with h_same | h_plain
    · exact h_stops c h_same
    · exact h_plain.1
  | @reference w t rest ls h_name h_stops h_next ih =>
    rw [textOf_cons, List.append_assoc]
    refine .reference h_name (fun c h_c => ?_) (ih h_rest)
    rcases h_next.head?_replaced h_rest h_c with h_same | h_plain
    · exact h_stops c h_same
    · exact h_plain.1
  | @literal w t rest ls h_closed h_apart h_next ih =>
    rw [textOf_cons, List.append_assoc]
    refine .literal h_closed (fun h_empty h_quote => ?_) (ih h_rest)
    rcases h_next.head?_replaced h_rest h_quote with h_same | h_plain
    · exact h_apart h_empty h_same
    · exact h_plain.2 rfl
  | other h_other _ ih => exact .other h_other (ih h_rest)

/-- Anything may follow a lexeme of its own. -/
theorem ended (h : Reads t ls []) {c : Char} (h_last : ls.getLast? = some (.other c))
    (rest : Text) : Reads (t ++ rest) ls rest := by
  obtain ⟨init, rfl⟩ : ∃ init, ls = init ++ [.other c] := by
    refine ⟨ls.dropLast, ?_⟩
    exact (List.dropLast_append_getLast? _ h_last).symm
  obtain ⟨m, h_init, h_end⟩ := h.split
  cases h_end with
  | @other _ m _ _ h_other h_done =>
  cases h_done
  have h_same : Replaces (c :: rest) [c] := fun d h_d => Or.inl h_d
  have h_text : t ++ rest = textOf init ++ c :: rest := by
    rw [h_init.text_eq, List.append_assoc]
    rfl
  rw [h_text]
  exact (h_init.replace h_same).append (.other h_other .done)

end Reads

/-! ### Renaming variables -/

/-- A reference gets a prefix, and nothing else does. -/
def Lexeme.prefixed (aliasName : Text) : Lexeme → Lexeme
  | .reference w => .reference (aliasName ++ ['_'] ++ w)
  | l => l

variable {aliasName : Text}

/-- A prefixed name is a name. -/
theorem IsName.prefixed {w : Text} (h : IsName w) (h_alias : ∀ c ∈ aliasName, isNameChar c = true) :
    IsName (aliasName ++ ['_'] ++ w) := by
  refine ⟨List.append_ne_nil_of_right_ne_nil _ h.1, fun c h_c => ?_⟩
  rcases List.mem_append.mp h_c with h_c | h_c
  · rcases List.mem_append.mp h_c with h_c | h_c
    · exact h_alias c h_c
    · obtain rfl := List.mem_singleton.mp h_c
      rfl
  · exact h.2 c h_c

/-- The prefix does not show at the start of a lexeme. -/
theorem Reads.head?_prefixed {t rest : Text} {ls : List Lexeme} (h : Reads t ls rest)
    (aliasName : Text) :
    (textOf (ls.map (Lexeme.prefixed aliasName)) ++ rest).head? = t.head? := by
  cases h with
  | done => rfl
  | @name w t _ ls h_name _ _ =>
    obtain ⟨c, w, rfl⟩ := List.exists_cons_of_ne_nil h_name.1
    rfl
  | reference _ _ _ => rfl
  | @literal w t _ ls h_closed _ _ => cases h_closed <;> rfl
  | other _ _ => rfl

/-- **A renamed text reads as the renamed lexemes.** -/
theorem Reads.prefixed {t rest : Text} {ls : List Lexeme} (h : Reads t ls rest)
    (h_alias : ∀ c ∈ aliasName, isNameChar c = true) :
    Reads (textOf (ls.map (Lexeme.prefixed aliasName)) ++ rest)
      (ls.map (Lexeme.prefixed aliasName)) rest := by
  induction h with
  -- what follows starts with the same character, so every lexeme ends where it did
  | done => exact .done
  | @name w t rest ls h_name h_stops h_next ih =>
    rw [List.map_cons, textOf_cons, List.append_assoc]
    refine .name h_name (fun c h_c => h_stops c ?_) ih
    rw [← h_next.head?_prefixed aliasName]
    exact h_c
  | @reference w t rest ls h_name h_stops h_next ih =>
    rw [List.map_cons, textOf_cons, List.append_assoc]
    refine .reference (h_name.prefixed h_alias) (fun c h_c => h_stops c ?_) ih
    rw [← h_next.head?_prefixed aliasName]
    exact h_c
  | @literal w t rest ls h_closed h_apart h_next ih =>
    rw [List.map_cons, textOf_cons, List.append_assoc]
    refine .literal h_closed (fun h_empty h_quote => h_apart h_empty ?_) ih
    rw [← h_next.head?_prefixed aliasName]
    exact h_quote
  | other h_other _ ih => exact .other h_other ih

/-- Characters that start neither a literal nor a reference are copied. -/
theorem renameVariablesLoop_plain (aliasName : Text) {w : Text}
    (h : ∀ c ∈ w, c ≠ '"' ∧ c ≠ '$') (fuel : ℕ) (t renamed : Text) :
    renameVariablesLoop aliasName (fuel + w.length) (w ++ t) renamed =
      renameVariablesLoop aliasName fuel t (renamed ++ w) := by
  induction w generalizing renamed with
  | nil => rw [List.append_nil]; rfl
  | cons c w ih =>
    obtain ⟨⟨h_quote, h_dollar⟩, h_w⟩ := List.forall_mem_cons.mp h
    rw [List.length_cons, ← Nat.add_assoc, List.cons_append, renameVariablesLoop,
      stringLiteralLen_plain h_quote]
    have h_slice : sliceFrom (c :: (w ++ t)) c.utf8Size = some (w ++ t) :=
      sliceFrom_append [c] (w ++ t)
    change (do
      let rest ← sliceFrom (c :: (w ++ t)) c.utf8Size
      if c = '$' then _
        else renameVariablesLoop aliasName (fuel + w.length) rest (renamed ++ [c])) = _
    rw [h_slice]
    change (if c = '$' then _ else _) = _
    rw [if_neg h_dollar, ih h_w, List.append_assoc]
    rfl

/-- A reference ends where its name does. -/
theorem findChar_name {w t : Text} (h_name : ∀ c ∈ w, isNameChar c = true) (h_stops : Stops t) :
    (findChar (fun next => !isNameChar next) (w ++ t)).getD (byteLen (w ++ t)) = byteLen w := by
  have h_w : ∀ c ∈ w, (!isNameChar c) = false := fun c h_c => by rw [h_name c h_c]; rfl
  cases t with
  | nil =>
    rw [List.append_nil, findChar_none h_w]
    rfl
  | cons c t =>
    have h_c : (!isNameChar c) = true := by rw [h_stops c rfl]; rfl
    rw [findChar_append h_w c t h_c]
    rfl

/-- A name has neither quotes nor dollar signs. -/
theorem IsName.plain {w : Text} (h : IsName w) : ∀ c ∈ w, c ≠ '"' ∧ c ≠ '$' := by
  intro c h_c
  have h_char := h.2 c h_c
  constructor
  · rintro rfl
    exact absurd h_char (by decide)
  · rintro rfl
    exact absurd h_char (by decide)

/-- A string literal has its quotes. -/
theorem StringLiteral.ne_nil {w : Text} (h : StringLiteral w) : w ≠ [] := by
  cases h <;> exact List.cons_ne_nil _ _

/-- Literals are copied. -/
theorem renameVariablesLoop_literal {w t : Text} (h_closed : StringLiteral w)
    (h_apart : w = emptyString → t.head? ≠ some '"') (fuel : ℕ) (renamed : Text) :
    renameVariablesLoop aliasName (fuel + 1) (w ++ t) renamed =
      renameVariablesLoop aliasName fuel t (renamed ++ w) := by
  obtain ⟨c, w', h_w⟩ := List.exists_cons_of_ne_nil h_closed.ne_nil
  have h_length := stringLiteralLen_literal h_closed h_apart
  have h_to := sliceTo_append w t
  have h_from := sliceFrom_append w t
  generalize byteLen w = n at h_length h_to h_from
  rw [h_w] at h_length h_to h_from ⊢
  rw [List.cons_append] at h_length h_to h_from ⊢
  rw [renameVariablesLoop, h_length]
  change (do
    let literal ← sliceTo (c :: (w' ++ t)) n
    let rest ← sliceFrom (c :: (w' ++ t)) n
    renameVariablesLoop aliasName fuel rest (renamed ++ literal)) = _
  rw [h_to, h_from]
  rfl

/-- References get the prefix. -/
theorem renameVariablesLoop_reference {w t : Text} (h_name : IsName w) (h_stops : Stops t)
    (fuel : ℕ) (renamed : Text) :
    renameVariablesLoop aliasName (fuel + 1) ('$' :: (w ++ t)) renamed =
      renameVariablesLoop aliasName fuel t (renamed ++ ('$' :: (aliasName ++ ['_'] ++ w))) := by
  have h_pos : 0 < byteLen w := by
    obtain ⟨c, w, rfl⟩ := List.exists_cons_of_ne_nil h_name.1
    exact Nat.pos_of_ne_zero (byteLen_cons_pos c w)
  have h_slice : sliceFrom ('$' :: (w ++ t)) (Char.utf8Size '$') = some (w ++ t) :=
    sliceFrom_append ['$'] (w ++ t)
  rw [renameVariablesLoop, stringLiteralLen_plain (by decide)]
  change (do
    let rest ← sliceFrom ('$' :: (w ++ t)) (Char.utf8Size '$')
    let nameLength := (findChar (fun next => !isNameChar next) rest).getD (byteLen rest)
    if 0 < nameLength then
      let name ← sliceTo rest nameLength
      let rest ← sliceFrom rest nameLength
      renameVariablesLoop aliasName fuel rest (renamed ++ ['$'] ++ aliasName ++ ['_'] ++ name)
    else renameVariablesLoop aliasName fuel rest (renamed ++ ['$'])) = _
  -- the sign is copied, and the alias is put between it and the name
  rw [h_slice]
  dsimp only [Option.bind_eq_bind, Option.bind_some]
  rw [findChar_name h_name.2 h_stops, if_pos h_pos, sliceTo_append, sliceFrom_append]
  dsimp only [Option.bind_some]
  rw [List.append_assoc, List.append_assoc, List.append_assoc]
  simp

/-- **The loop renames lexeme by lexeme.** -/
theorem renameVariablesLoop_reads {t : Text} {ls : List Lexeme} (h : Reads t ls []) {fuel : ℕ}
    (h_fuel : t.length < fuel) (renamed : Text) : renameVariablesLoop aliasName fuel t renamed =
      some (renamed ++ textOf (ls.map (Lexeme.prefixed aliasName))) := by
  generalize h_rest : ([] : Text) = rest at h
  induction h generalizing fuel renamed with
  -- one turn of the loop for each lexeme, with names passed character by character
  | done =>
    subst h_rest
    obtain ⟨n, rfl⟩ := Nat.exists_eq_succ_of_ne_zero (Nat.ne_of_gt h_fuel)
    exact congrArg some (List.append_nil renamed).symm
  | @name w t rest ls h_name h_stops h_next ih =>
    rw [List.length_append] at h_fuel
    obtain ⟨n, rfl⟩ : ∃ n, fuel = n + w.length := ⟨fuel - w.length, by omega⟩
    rw [renameVariablesLoop_plain aliasName h_name.plain, ih (by omega) _ h_rest, List.append_assoc]
    rfl
  | @reference w t rest ls h_name h_stops h_next ih =>
    rw [List.length_cons, List.length_append] at h_fuel
    obtain ⟨n, rfl⟩ : ∃ n, fuel = n + 1 := ⟨fuel - 1, by omega⟩
    rw [renameVariablesLoop_reference h_name h_stops, ih (by omega) _ h_rest, List.append_assoc]
    rfl
  | @literal w t rest ls h_closed h_apart h_next ih =>
    have h_pos := List.length_pos_of_ne_nil h_closed.ne_nil
    rw [List.length_append] at h_fuel
    obtain ⟨n, rfl⟩ : ∃ n, fuel = n + 1 := ⟨fuel - 1, by omega⟩
    rw [renameVariablesLoop_literal h_closed h_apart, ih (by omega) _ h_rest, List.append_assoc]
    rfl
  | @other c t rest ls h_other h_next ih =>
    have h_plain : ∀ d ∈ [c], d ≠ '"' ∧ d ≠ '$' :=
      List.forall_mem_singleton.mpr ⟨h_other.2.1, h_other.2.2.1⟩
    rw [List.length_cons] at h_fuel
    obtain ⟨n, rfl⟩ : ∃ n, fuel = n + [c].length := ⟨fuel - 1, by rw [List.length_singleton]; omega⟩
    rw [List.length_singleton] at h_fuel
    have h_copy := renameVariablesLoop_plain aliasName h_plain n t renamed
    rw [List.singleton_append] at h_copy
    rw [h_copy, ih (by omega) _ h_rest, List.append_assoc]
    rfl

/-- **Renaming the variables of a text** renames the references among its
lexemes, and copies the others. -/
theorem renameVariables_reads (aliasName : Text) {t : Text} {ls : List Lexeme}
    (h : Reads t ls []) :
    renameVariables t aliasName = some (textOf (ls.map (Lexeme.prefixed aliasName))) :=
  renameVariablesLoop_reads h (Nat.lt_succ_self _) []

/-! ### One reading -/

/-- A name is what can be taken off a text. -/
theorem IsName.takeWhile {w t : Text} (h : IsName w) (h_stops : Stops t) :
    (w ++ t).takeWhile isNameChar = w := by
  rw [List.takeWhile_append_of_pos h.2]
  cases t with
  | nil => exact List.append_nil w
  | cons c t =>
    rw [List.takeWhile_cons_of_neg (by rw [h_stops c rfl]; exact Bool.false_ne_true)]
    exact List.append_nil w

inductive LexemeKind
  | name
  | reference
  | literal
  | other
  deriving DecidableEq

def Lexeme.kind : Lexeme → LexemeKind
  | .name _ => .name
  | .reference _ => .reference
  | .literal _ => .literal
  | .other _ => .other

/-- The kind of the lexeme that starts with a character. -/
def kindOf (c : Char) : LexemeKind :=
  if isNameChar c then .name else if c = '$' then .reference else if c = '"' then .literal
  else .other

/-- The first character tells the kind of the first lexeme. -/
theorem Reads.kind_eq {t rest : Text} {l : Lexeme} {ls : List Lexeme} (h : Reads t (l :: ls) rest) :
    t.head?.map kindOf = some l.kind := by
  cases h with
  | @name w t _ _ h_name _ _ =>
    obtain ⟨c, w, rfl⟩ := List.exists_cons_of_ne_nil h_name.1
    have h_c : isNameChar c = true := h_name.2 c List.mem_cons_self
    change some (kindOf c) = some .name
    rw [kindOf, if_pos h_c]
  | reference _ _ _ => rfl
  | literal h_closed _ _ => cases h_closed <;> rfl
  | @other c _ _ _ h_other _ =>
    have h_c : ¬isNameChar c = true := by rw [h_other.1]; exact Bool.false_ne_true
    change some (kindOf c) = some .other
    rw [kindOf, if_neg h_c, if_neg h_other.2.2.1, if_neg h_other.2.1]

/-- Two lexemes that start a text are the same, and so is what is left. -/
theorem Reads.head_eq {t rest rest' : Text} {l l' : Lexeme} {ls ls' : List Lexeme}
    (h : Reads t (l :: ls) rest) (h' : Reads t (l' :: ls') rest') :
    l = l' ∧ ∃ m, Reads m ls rest ∧ Reads m ls' rest' := by
  have h_kind : l.kind = l'.kind := Option.some.inj (h.kind_eq.symm.trans h'.kind_eq)
  -- lexemes of one kind end at the same place, which the text determines
  generalize h_text : t = text at h'
  cases h with
  | @name w t _ _ h_name h_stops h_next =>
    cases h' with
    | @name w' t' _ _ h_name' h_stops' h_next' =>
      have h_w : w = w' := by
        rw [← h_name.takeWhile h_stops, h_text, h_name'.takeWhile h_stops']
      subst h_w
      obtain rfl := List.append_cancel_left h_text
      exact ⟨rfl, t, h_next, h_next'⟩
    | _ => cases h_kind
  | @reference w t _ _ h_name h_stops h_next =>
    cases h' with
    | @reference w' t' _ _ h_name' h_stops' h_next' =>
      have h_tail := (List.cons.inj h_text).2
      have h_w : w = w' := by
        rw [← h_name.takeWhile h_stops, h_tail, h_name'.takeWhile h_stops']
      subst h_w
      obtain rfl := List.append_cancel_left h_tail
      exact ⟨rfl, t, h_next, h_next'⟩
    | _ => cases h_kind
  | @literal w t _ _ h_closed h_apart h_next =>
    cases h' with
    | @literal w' t' _ _ h_closed' h_apart' h_next' =>
      -- both literals end where `stringLiteralLen` finds the end
      have h_length : byteLen w = byteLen w' := by
        have h_w := stringLiteralLen_literal h_closed h_apart
        rw [h_text, stringLiteralLen_literal h_closed' h_apart'] at h_w
        exact (Option.some.inj (Option.some.inj h_w)).symm
      have h_w : w = w' := by
        have h_slice := sliceTo_append w t
        rw [h_text, h_length, sliceTo_append] at h_slice
        exact (Option.some.inj h_slice).symm
      subst h_w
      obtain rfl := List.append_cancel_left h_text
      exact ⟨rfl, t, h_next, h_next'⟩
    | _ => cases h_kind
  | @other c t _ _ h_other h_next =>
    cases h' with
    | other _ h_next' =>
      obtain ⟨rfl, rfl⟩ := List.cons.inj h_text
      exact ⟨rfl, t, h_next, h_next'⟩
    | _ => cases h_kind

/-- **A text has one reading.** -/
theorem Reads.deterministic {t : Text} {ls ls' : List Lexeme} (h : Reads t ls [])
    (h' : Reads t ls' []) : ls = ls' := by
  induction ls generalizing t ls' with
  | nil =>
    cases h
    cases ls' with
    | nil => rfl
    | cons l' ls' =>
      cases h'.kind_eq
  | cons l ls ih =>
    cases ls' with
    | nil =>
      cases h'
      cases h.kind_eq
    | cons l' ls' =>
      obtain ⟨rfl, m, h_next, h_next'⟩ := h.head_eq h'
      rw [ih h_next h_next']

/-! ### Brackets -/

/-- The brackets of GraphQL. -/
def brackets : List (Char × Char) := [('(', ')'), ('[', ']'), ('\x7b', '\x7d')]

def Lexeme.isBracket : Lexeme → Bool
  | .other c => brackets.any fun p => decide (c = p.1) || decide (c = p.2)
  | _ => false

/-- Every bracket is closed by its partner. -/
inductive Balanced : List Lexeme → Prop
  | nil : Balanced []
  | plain {l : Lexeme} {ls : List Lexeme} (no_bracket : l.isBracket = false)
      (rest : Balanced ls) : Balanced (l :: ls)
  | group {opening closing : Char} {inner ls : List Lexeme} (pair : (opening, closing) ∈ brackets)
      (content : Balanced inner) (rest : Balanced ls) :
      Balanced (.other opening :: inner ++ .other closing :: ls)

/-- Renaming makes no brackets, and removes none. -/
theorem Lexeme.prefixed_isBracket (l : Lexeme) :
    (l.prefixed aliasName).isBracket = l.isBracket := by
  cases l <;> rfl

/-- Renaming leaves the brackets alone. -/
theorem Balanced.prefixed {ls : List Lexeme} (h : Balanced ls) :
    Balanced (ls.map (Lexeme.prefixed aliasName)) := by
  induction h with
  | nil => exact .nil
  | plain h_plain _ ih => exact .plain (by rw [Lexeme.prefixed_isBracket]; exact h_plain) ih
  | group h_pair _ _ ih_content ih_rest =>
    rw [List.map_append, List.map_cons, List.map_cons]
    exact .group h_pair ih_content ih_rest

section MatchingParen

variable {text before t : Text}

/-- Characters that are neither parentheses nor quotes are skipped. -/
theorem matchingParenLoop_plain {w : Text} (h : ∀ c ∈ w, c ≠ '"' ∧ c ≠ '(' ∧ c ≠ ')')
    (h_text : text = before ++ (w ++ t)) (fuel depth : ℕ) :
    matchingParenLoop text (fuel + w.length) depth (byteLen before) =
      matchingParenLoop text fuel depth (byteLen (before ++ w)) := by
  induction w generalizing before with
  | nil => rw [List.append_nil]; rfl
  | cons c w ih =>
    obtain ⟨⟨h_quote, h_open, h_close⟩, h_w⟩ := List.forall_mem_cons.mp h
    have h_text' : text = (before ++ [c]) ++ (w ++ t) := by rw [h_text]; simp
    -- one turn, past a character that is neither quote nor parenthesis
    have h_slice : sliceFrom text (byteLen before) = some (c :: (w ++ t)) := by
      rw [h_text]
      exact sliceFrom_append before _
    have h_next := ih h_w h_text'
    rw [List.length_cons, ← Nat.add_assoc, matchingParenLoop, h_slice]
    dsimp only [Option.bind_eq_bind, Option.bind_some]
    rw [stringLiteralLen_plain h_quote]
    dsimp only [Option.bind_eq_bind, Option.bind_some]
    rw [if_neg h_open, if_neg h_close]
    rw [byteLen_append before [c]] at h_next
    refine h_next.trans ?_
    rw [List.append_assoc]
    rfl

/-- Literals are skipped, whatever is in them. -/
theorem matchingParenLoop_literal {w : Text} (h_closed : StringLiteral w)
    (h_apart : w = emptyString → t.head? ≠ some '"') (h_text : text = before ++ (w ++ t))
    (fuel depth : ℕ) : matchingParenLoop text (fuel + 1) depth (byteLen before) =
      matchingParenLoop text fuel depth (byteLen (before ++ w)) := by
  obtain ⟨c, w', h_w⟩ := List.exists_cons_of_ne_nil h_closed.ne_nil
  have h_length := stringLiteralLen_literal h_closed h_apart
  have h_slice : sliceFrom text (byteLen before) = some (w ++ t) := by
    rw [h_text]
    exact sliceFrom_append before _
  rw [byteLen_append]
  generalize byteLen w = n at h_length
  rw [h_w, List.cons_append] at h_length h_slice
  rw [matchingParenLoop, h_slice]
  dsimp only [Option.bind_eq_bind, Option.bind_some]
  rw [h_length]
  rfl

/-- An opening parenthesis. -/
theorem matchingParenLoop_open (h_text : text = before ++ '(' :: t) (fuel depth : ℕ) :
    matchingParenLoop text (fuel + 1) depth (byteLen before) =
      matchingParenLoop text fuel (depth + 1) (byteLen (before ++ ['('])) := by
  have h_slice : sliceFrom text (byteLen before) = some ('(' :: t) := by
    rw [h_text]
    exact sliceFrom_append before _
  rw [matchingParenLoop, h_slice]
  dsimp only [Option.bind_eq_bind, Option.bind_some]
  rw [stringLiteralLen_plain (by decide), byteLen_append]
  rfl

/-- A closing parenthesis, which may be the one that is looked for. -/
theorem matchingParenLoop_close (h_text : text = before ++ ')' :: t) (fuel depth : ℕ) :
    matchingParenLoop text (fuel + 1) (depth + 1) (byteLen before) =
      if depth = 0 then some (some (byteLen before))
      else matchingParenLoop text fuel depth (byteLen (before ++ [')'])) := by
  have h_slice : sliceFrom text (byteLen before) = some (')' :: t) := by
    rw [h_text]
    exact sliceFrom_append before _
  rw [matchingParenLoop, h_slice]
  dsimp only [Option.bind_eq_bind, Option.bind_some]
  rw [stringLiteralLen_plain (by decide), byteLen_append]
  cases depth with
  | zero => rfl
  | succ depth => rfl

/-- A lexeme that is no bracket is skipped. -/
theorem matchingParenLoop_lexeme {l : Lexeme} {ls : List Lexeme} {rest : Text}
    (h_plain : l.isBracket = false) (h_reads : Reads t (l :: ls) rest)
    (h_text : text = before ++ t) {fuel : ℕ} (h_fuel : t.length < fuel) (depth : ℕ) :
    ∃ m fuel', t = l.text ++ m ∧ Reads m ls rest ∧ m.length < fuel' ∧
      matchingParenLoop text fuel depth (byteLen before) =
        matchingParenLoop text fuel' depth (byteLen (before ++ l.text)) := by
  -- the loop copies characters that are neither quotes nor parentheses, one a turn
  have h_copy : ∀ w m, (∀ c ∈ w, c ≠ '"' ∧ c ≠ '(' ∧ c ≠ ')') → t = w ++ m →
      ∃ fuel', m.length < fuel' ∧ matchingParenLoop text fuel depth (byteLen before) =
        matchingParenLoop text fuel' depth (byteLen (before ++ w)) := by
    intro w m h_w h_t
    rw [h_t, List.length_append] at h_fuel
    obtain ⟨n, rfl⟩ : ∃ n, fuel = n + w.length := ⟨fuel - w.length, by omega⟩
    exact ⟨n, by omega, matchingParenLoop_plain h_w (by rw [h_text, h_t]) n depth⟩
  have h_char : ∀ c, isNameChar c = true → c ≠ '"' ∧ c ≠ '(' ∧ c ≠ ')' := by
    intro c h_c
    refine ⟨?_, ?_, ?_⟩
    all_goals
      rintro rfl
      exact absurd h_c (by decide)
  cases h_reads with
  -- names and references have none of them
  | @name w m _ _ h_name _ h_next =>
    obtain ⟨fuel', h_fuel', h_eq⟩ := h_copy w m (fun c h_c => h_char c (h_name.2 c h_c)) rfl
    exact ⟨m, fuel', rfl, h_next, h_fuel', h_eq⟩
  | @reference w m _ _ h_name _ h_next =>
    have h_w : ∀ c ∈ '$' :: w, c ≠ '"' ∧ c ≠ '(' ∧ c ≠ ')' :=
      List.forall_mem_cons.mpr ⟨by decide, fun c h_c => h_char c (h_name.2 c h_c)⟩
    obtain ⟨fuel', h_fuel', h_eq⟩ := h_copy ('$' :: w) m h_w rfl
    exact ⟨m, fuel', rfl, h_next, h_fuel', h_eq⟩
  -- a literal is skipped in one turn
  | @literal w m _ _ h_closed h_apart h_next =>
    have h_pos := List.length_pos_of_ne_nil h_closed.ne_nil
    rw [List.length_append] at h_fuel
    obtain ⟨n, rfl⟩ : ∃ n, fuel = n + 1 := ⟨fuel - 1, by omega⟩
    exact ⟨m, n, rfl, h_next, by omega, matchingParenLoop_literal h_closed h_apart h_text n depth⟩
  -- any other character that is no bracket
  | @other c m _ _ h_other h_next =>
    have h_w : ∀ d ∈ [c], d ≠ '"' ∧ d ≠ '(' ∧ d ≠ ')' := by
      refine List.forall_mem_singleton.mpr ⟨h_other.2.1, ?_, ?_⟩
      all_goals
        rintro rfl
        exact absurd h_plain (by decide)
    obtain ⟨fuel', h_fuel', h_eq⟩ := h_copy [c] m h_w rfl
    exact ⟨m, fuel', rfl, h_next, h_fuel', h_eq⟩

/-- The two brackets of a group: the first one leads to a depth that the second
one takes back. -/
theorem matchingParenLoop_pair (text : Text) {opening closing : Char}
    (h_pair : (opening, closing) ∈ brackets) (depth : ℕ) : ∃ inner,
      (∀ {before t : Text} (fuel : ℕ), text = before ++ opening :: t →
        matchingParenLoop text (fuel + 1) (depth + 1) (byteLen before) =
          matchingParenLoop text fuel (inner + 1) (byteLen (before ++ [opening]))) ∧
      ∀ {before t : Text} (fuel : ℕ), text = before ++ closing :: t →
        matchingParenLoop text (fuel + 1) (inner + 1) (byteLen before) =
          matchingParenLoop text fuel (depth + 1) (byteLen (before ++ [closing])) := by
  have h_skip : ∀ c : Char, c ≠ '"' → c ≠ '(' → c ≠ ')' → ∀ {before t : Text} (fuel : ℕ),
      text = before ++ c :: t → matchingParenLoop text (fuel + 1) (depth + 1) (byteLen before) =
        matchingParenLoop text fuel (depth + 1) (byteLen (before ++ [c])) := by
    intro c h_quote h_open h_close before t fuel h_text
    have h_text' : text = before ++ ([c] ++ t) := h_text
    exact matchingParenLoop_plain (List.forall_mem_singleton.mpr ⟨h_quote, h_open, h_close⟩)
      h_text' fuel (depth + 1)
  simp only [brackets, List.mem_cons, List.not_mem_nil, or_false, Prod.mk.injEq] at h_pair
  rcases h_pair with ⟨rfl, rfl⟩ | ⟨rfl, rfl⟩ | ⟨rfl, rfl⟩
  · -- only parentheses count
    refine ⟨depth + 1, fun fuel h_text => matchingParenLoop_open h_text fuel (depth + 1),
      fun fuel h_text => ?_⟩
    rw [matchingParenLoop_close h_text fuel (depth + 1), if_neg (Nat.succ_ne_zero depth)]
  · -- brackets and braces are passed
    exact ⟨depth, fun fuel h_text => h_skip '[' (by decide) (by decide) (by decide) fuel h_text,
      fun fuel h_text => h_skip ']' (by decide) (by decide) (by decide) fuel h_text⟩
  · exact ⟨depth, fun fuel h_text => h_skip '\x7b' (by decide) (by decide) (by decide) fuel h_text,
      fun fuel h_text => h_skip '\x7d' (by decide) (by decide) (by decide) fuel h_text⟩

/-- Balanced lexemes leave the depth as it was. -/
theorem matchingParenLoop_balanced {ls : List Lexeme} (h : Balanced ls) {rest : Text}
    (h_reads : Reads t ls rest) (h_text : text = before ++ t) {fuel : ℕ} (h_fuel : t.length < fuel)
    (depth : ℕ) :
    ∃ fuel', rest.length < fuel' ∧ matchingParenLoop text fuel (depth + 1) (byteLen before) =
      matchingParenLoop text fuel' (depth + 1) (byteLen (before ++ textOf ls)) := by
  induction h generalizing t before fuel depth rest with
  | nil =>
    cases h_reads
    exact ⟨fuel, h_fuel, by rw [textOf_nil, List.append_nil]⟩
  | @plain l ls h_plain _ ih =>
    obtain ⟨m, fuel₁, rfl, h_next, h_fuel₁, h_eq₁⟩ :=
      matchingParenLoop_lexeme h_plain h_reads h_text h_fuel (depth + 1)
    have h_text₁ : text = before ++ l.text ++ m := by rw [h_text, List.append_assoc]
    obtain ⟨fuel₂, h_fuel₂, h_eq₂⟩ := ih h_next h_text₁ h_fuel₁ depth
    refine ⟨fuel₂, h_fuel₂, (h_eq₁.trans h_eq₂).trans ?_⟩
    rw [textOf_cons, List.append_assoc]
  -- the depth is the same in front of the pair and behind it
  | @group opening closing inner ls h_pair _ _ ih_content ih_rest =>
    cases h_reads with
    | @other _ t _ _ _ h_body =>
    obtain ⟨m, h_inner, h_tail⟩ := h_body.split
    cases h_tail with
    | @other _ m _ _ _ h_after =>
    -- the text at each of the three places where the loop stands
    have h_text₁ : text = before ++ [opening] ++ t := by rw [h_text]; simp
    have h_text₂ : text = before ++ [opening] ++ textOf inner ++ closing :: m := by
      rw [h_text₁, h_inner.text_eq]
      simp
    have h_text₃ : text = before ++ [opening] ++ textOf inner ++ [closing] ++ m := by
      rw [h_text₂]
      simp
    have h_end : before ++ textOf (.other opening :: inner ++ .other closing :: ls) =
        before ++ [opening] ++ textOf inner ++ [closing] ++ textOf ls := by
      simp [Lexeme.text]
    obtain ⟨depth', h_open, h_close⟩ := matchingParenLoop_pair text h_pair depth
    -- one turn for either bracket, and the induction hypotheses for what is between and behind
    rw [List.length_cons] at h_fuel
    obtain ⟨n, rfl⟩ : ∃ n, fuel = n + 1 := ⟨fuel - 1, by omega⟩
    obtain ⟨fuel₁, h_fuel₁, h_eq₁⟩ :=
      ih_content h_inner h_text₁ (Nat.lt_of_succ_lt_succ h_fuel) depth'
    rw [List.length_cons] at h_fuel₁
    obtain ⟨n₁, rfl⟩ : ∃ n₁, fuel₁ = n₁ + 1 := ⟨fuel₁ - 1, by omega⟩
    rw [h_open n h_text, h_eq₁, h_close n₁ h_text₂, h_end]
    exact ih_rest h_after h_text₃ (Nat.lt_of_succ_lt_succ h_fuel₁) depth

/-- **The parenthesis that closes balanced lexemes** is found. -/
theorem matchingParen_reads {ls : List Lexeme} (h : Balanced ls) {rest : Text}
    (h_reads : Reads t ls (')' :: rest)) :
    matchingParen ('(' :: t) = some (some (byteLen ('(' :: textOf ls))) := by
  have h_text : '(' :: t = [] ++ '(' :: t := rfl
  have h_text₁ : '(' :: t = ['('] ++ t := rfl
  have h_text₂ : '(' :: t = '(' :: textOf ls ++ ')' :: rest := by rw [h_reads.text_eq]; rfl
  obtain ⟨fuel, h_fuel, h_eq⟩ :=
    matchingParenLoop_balanced h h_reads h_text₁ (Nat.lt_succ_self t.length) 0
  rw [List.length_cons] at h_fuel
  obtain ⟨n, rfl⟩ : ∃ n, fuel = n + 1 := ⟨fuel - 1, by omega⟩
  have h_close := matchingParenLoop_close h_text₂ n 0
  rw [if_pos rfl] at h_close
  exact (matchingParenLoop_open h_text _ 0).trans (h_eq.trans h_close)

end MatchingParen

end Blokli
