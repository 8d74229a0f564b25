import BlokliClient.Lexemes

/-!
# The scanner, for every text

`Lexemes` reads well-formed documents. The scanning functions of `Document` run on
any text, and this file compares them with a lexer that is written character by
character and knows no offsets.

* `cutLiteral` cuts the literal off that a text starts with: `blockLiteral` up to
  the first triple quote that no backslash stands before, `quotedLiteral` up to the
  first quote that is not escaped, either up to the end of the text if there is
  none.
* `cut` cuts a text into literals and other characters, and `renamePieces` puts a
  text behind each `$` that a name follows.
* `stringLiteralLen_cut`: `string_literal_len` measures what `cutLiteral` cuts.
* `renameVariables_cut`: `rename_variables` is `renamePieces` over `cut`. It follows
  that it neither panics nor loops, and the same is shown of `matching_paren`
  (`matchingParenLoop_total`).
* `removeBehind_cut`: the alias can be taken out of the result again, as long as it
  is a name.
-/

namespace Blokli

/-! ### The reference lexer -/

/-- A block string behind its opening quotes, and what follows it. The flag says
that a backslash stands before the text. -/
def blockLiteral : Bool → Text → Text × Text
  | _, [] => ([], [])
  | false, '"' :: '"' :: '"' :: t => (tripleQuote, t)
  | true, '"' :: '"' :: '"' :: t => (blockLiteral false t).map (tripleQuote ++ ·) id
  | _, c :: t => (blockLiteral (c == '\\') t).map (c :: ·) id

/-- A quoted string behind its opening quote, and what follows it. The flag says
that the first character is escaped. -/
def quotedLiteral : Bool → Text → Text × Text
  | _, [] => ([], [])
  | true, c :: t => (quotedLiteral false t).map (c :: ·) id
  | false, c :: t =>
    if c = '"' then ([c], t) else (quotedLiteral (c == '\\') t).map (c :: ·) id

/-- The literal that a text starts with, and what follows it. -/
def cutLiteral : Text → Option (Text × Text)
  | '"' :: '"' :: '"' :: t => some ((blockLiteral false t).map (tripleQuote ++ ·) id)
  | '"' :: t => some ((quotedLiteral false t).map ('"' :: ·) id)
  | _ => none

/-- What a text is cut into. -/
inductive Piece
  /-- A literal with its quotes; an unterminated one goes up to the end. -/
  | literal (w : Text)
  | character (c : Char)
  deriving DecidableEq

def Piece.text : Piece → Text
  | .literal w => w
  | .character c => [c]

/-- A block string ends at three quotes. -/
theorem blockLiteral_quotes (t : Text) : blockLiteral false (tripleQuote ++ t) = (tripleQuote, t) :=
  rfl

/-- Three quotes that are escaped do not end it. -/
theorem blockLiteral_escaped (t : Text) : blockLiteral true (tripleQuote ++ t) =
    (blockLiteral false t).map (tripleQuote ++ ·) id := rfl

/-- It goes on at any other character. -/
theorem blockLiteral_char {c : Char} {t : Text} (h : ¬ tripleQuote <+: c :: t) (escaped : Bool) :
    blockLiteral escaped (c :: t) = (blockLiteral (c == '\\') t).map (c :: ·) id := by
  have h_quotes : ∀ t', c = '"' → t = '"' :: '"' :: t' → False := by
    rintro t' rfl rfl
    exact h (List.prefix_append tripleQuote t')
  exact blockLiteral.eq_4 escaped c t (fun t' _ => h_quotes t') (fun t' _ => h_quotes t')

/-- A single quote starts a string. -/
theorem cutLiteral_quoted {t : Text} (h : ¬ tripleQuote <+: '"' :: t) :
    cutLiteral ('"' :: t) = some ((quotedLiteral false t).map ('"' :: ·) id) := by
  refine cutLiteral.eq_2 t ?_
  rintro u rfl
  exact h (List.prefix_append tripleQuote u)

/-- Nothing is lost in a block string. -/
theorem blockLiteral_append (escaped : Bool) (t : Text) :
    (blockLiteral escaped t).1 ++ (blockLiteral escaped t).2 = t := by
  fun_induction blockLiteral escaped t with
  | case1 => rfl
  | case2 t => rfl
  | case3 t ih => exact congrArg (tripleQuote ++ ·) ih
  | case4 _ c t _ _ ih => exact congrArg (c :: ·) ih

/-- A string and what follows it make up the text. -/
theorem quotedLiteral_append (escaped : Bool) (t : Text) :
    (quotedLiteral escaped t).1 ++ (quotedLiteral escaped t).2 = t := by
  fun_induction quotedLiteral escaped t with
  | case1 => rfl
  | case2 c t ih => exact congrArg (c :: ·) ih
  | case3 t => rfl
  | case4 c t _ ih => exact congrArg (c :: ·) ih

/-- **Nothing is lost in a cut**, and the literal is not empty. -/
theorem cutLiteral_append {t w rest : Text} (h : cutLiteral t = some (w, rest)) :
    w ++ rest = t ∧ w ≠ [] := by
  unfold cutLiteral at h
  split at h
  · next t =>
    obtain ⟨rfl, rfl⟩ := Prod.mk.inj (Option.some.inj h)
    exact ⟨congrArg (tripleQuote ++ ·) (blockLiteral_append false t), List.cons_ne_nil _ _⟩
  · next t _ =>
    obtain ⟨rfl, rfl⟩ := Prod.mk.inj (Option.some.inj h)
    exact ⟨congrArg ('"' :: ·) (quotedLiteral_append false t), List.cons_ne_nil _ _⟩
  · cases h

/-- A literal takes something from the text. -/
theorem cutLiteral_length {t w rest : Text} (h : cutLiteral t = some (w, rest)) :
    rest.length < t.length := by
  obtain ⟨rfl, h_w⟩ := cutLiteral_append h
  have h_pos := List.length_pos_of_ne_nil h_w
  rw [List.length_append]
  omega

/-- A literal starts at every quote, and nowhere else. -/
theorem cutLiteral_isSome (t : Text) : (cutLiteral t).isSome ↔ t.head? = some '"' := by
  unfold cutLiteral
  split
  · exact ⟨fun _ => rfl, fun _ => rfl⟩
  · exact ⟨fun _ => rfl, fun _ => rfl⟩
  · next _ h_quote =>
    refine ⟨fun h => (by cases h), fun h => ?_⟩
    cases t with
    | nil => cases h
    | cons c t =>
      obtain rfl : c = '"' := Option.some.inj h
      exact (h_quote t rfl).elim

/-- **The reference lexer.** -/
def cut : Text → List Piece
  | [] => []
  | c :: t =>
    match _h : cutLiteral (c :: t) with
    | some (w, rest) => .literal w :: cut rest
    | none => .character c :: cut t
termination_by t => t.length
decreasing_by
  · exact cutLiteral_length _h
  · exact Nat.lt_succ_self _

/-- A text that starts with a literal is cut behind it. -/
theorem cut_literal {t w rest : Text} (h : cutLiteral t = some (w, rest)) :
    cut t = .literal w :: cut rest := by
  cases t with
  | nil => cases h
  | cons c t =>
    rw [cut]
    split
    · next h' =>
      obtain ⟨rfl, rfl⟩ := Prod.mk.inj (Option.some.inj (h.symm.trans h'))
      rfl
    · next h' => cases h.symm.trans h'

/-- Any other text is cut behind its first character. -/
theorem cut_character {c : Char} {t : Text} (h : cutLiteral (c :: t) = none) :
    cut (c :: t) = .character c :: cut t := by
  rw [cut]
  split
  · next h' => cases h.symm.trans h'
  · rfl

/-! ### The end of a literal -/

/-- The text ends with a backslash, which escapes the quotes behind it. -/
def escapes (before : Text) : Bool := before.getLast? == some '\\'

/-- The last character decides what is escaped. -/
theorem escapes_append_singleton (before : Text) (c : Char) :
    escapes (before ++ [c]) = (c == '\\') := by
  unfold escapes
  rw [List.getLast?_append_of_ne_nil _ (List.cons_ne_nil c [])]
  rfl

/-- The first triple quote of a text: up to it, a block string goes on. -/
theorem findText_blockLiteral (before t : Text) :
    (findText tripleQuote t = none ∧ blockLiteral (escapes before) t = (t, [])) ∨
      ∃ s u, t = s ++ (tripleQuote ++ u) ∧ findText tripleQuote t = some (byteLen s) ∧
        blockLiteral (escapes before) t =
          (blockLiteral (escapes (before ++ s)) (tripleQuote ++ u)).map (s ++ ·) id := by
  induction t generalizing before with
  | nil => exact Or.inl ⟨rfl, by cases escapes before <;> rfl⟩
  | cons c t ih =>
    -- the quotes stand here, or the search moves on by one character
    by_cases h_here : tripleQuote <+: c :: t
    · obtain ⟨u, h_u⟩ := h_here
      refine Or.inr ⟨[], u, h_u.symm, ?_, ?_⟩
      · rw [findText, if_pos (List.isPrefixOf_iff_prefix.mpr ⟨u, h_u⟩)]
        rfl
      · rw [List.append_nil, h_u]
        rfl
    · have h_find : findText tripleQuote (c :: t) =
          (findText tripleQuote t).map (c.utf8Size + ·) := by
        rw [findText, if_neg (fun h => h_here (List.isPrefixOf_iff_prefix.mp h))]
      have h_char := blockLiteral_char h_here (escapes before)
      rw [← escapes_append_singleton before c] at h_char
      rw [h_find, h_char]
      rcases ih (before ++ [c]) with ⟨h_none, h_cut⟩ | ⟨s, u, rfl, h_some, h_cut⟩
      · refine Or.inl ⟨by rw [h_none]; rfl, ?_⟩
        rw [h_cut]
        rfl
      · refine Or.inr ⟨c :: s, u, rfl, by rw [h_some]; rfl, ?_⟩
        rw [h_cut, List.append_assoc]
        rfl

/-- **The candidates for the end of a block string**: the loop stops at the end
that the lexer finds, or knows that there is none. -/
theorem blockStringEnd_cut (before t : Text) {fuel : ℕ} (h_fuel : t.length < fuel) :
    ∃ found, blockStringEnd (before ++ t) fuel (byteLen before) = some found ∧
      (found.map (· + 3)).getD (byteLen (before ++ t)) =
        byteLen (before ++ (blockLiteral (escapes before) t).1) := by
  induction fuel generalizing before t with
  | zero => exact absurd h_fuel (Nat.not_lt_zero _)
  | succ fuel ih =>
    rw [blockStringEnd, sliceFrom_append]
    simp only [Option.bind_eq_bind, Option.bind_some]
    rcases findText_blockLiteral before t with ⟨h_none, h_cut⟩ | ⟨s, u, rfl, h_some, h_cut⟩
    · -- no quotes at all: the literal runs to the end
      rw [h_none, h_cut]
      exact ⟨none, rfl, rfl⟩
    · -- the first quotes, which are escaped or close the literal
      have h_stop : byteLen before + byteLen s = byteLen (before ++ s) :=
        (byteLen_append before s).symm
      rw [h_some, h_cut]
      dsimp only
      rw [h_stop, ← List.append_assoc before, sliceTo_append]
      simp only [Option.bind_some]
      by_cases h_escaped : (before ++ s).getLast? = some '\\'
      · -- the search goes on behind the escaped quotes
        have h_flag : escapes (before ++ s) = true := by
          unfold escapes
          rw [h_escaped]
          rfl
        have h_behind : escapes (before ++ s ++ tripleQuote) = false :=
          by simp [escapes, tripleQuote]
        have h_offset : byteLen (before ++ s) + 3 = byteLen (before ++ s ++ tripleQuote) :=
          (byteLen_append _ tripleQuote).symm
        have h_shorter : u.length < fuel := by
          have h_length : (s ++ (tripleQuote ++ u)).length = s.length + (3 + u.length) := by
            rw [List.length_append, List.length_append]
            rfl
          omega
        obtain ⟨found, h_end, h_found⟩ := ih (before ++ s ++ tripleQuote) u h_shorter
        rw [if_pos h_escaped, h_flag, blockLiteral_escaped, h_offset,
          ← List.append_assoc (before ++ s)]
        refine ⟨found, h_end, h_found.trans ?_⟩
        rw [h_behind]
        simp only [Prod.map_fst, List.append_assoc]
      · -- they close it
        have h_flag : escapes (before ++ s) = false := by
          unfold escapes
          exact beq_eq_false_iff_ne.mpr h_escaped
        rw [if_neg h_escaped, h_flag, blockLiteral_quotes]
        refine ⟨some (byteLen (before ++ s)), rfl, ?_⟩
        change byteLen (before ++ s) + 3 = byteLen (before ++ (s ++ tripleQuote))
        rw [← List.append_assoc, byteLen_append (before ++ s)]
        rfl

/-- The end of a quoted string. -/
theorem quotedEnd_cut (escaped : Bool) (offset : ℕ) (t : Text) :
    ((quotedEnd escaped offset t).map (· + 1)).getD (offset + byteLen t) =
      offset + byteLen (quotedLiteral escaped t).1 := by
  induction t generalizing escaped offset with
  | nil => cases escaped <;> rfl
  | cons c t ih =>
    -- one character further, on both sides
    have h_next : ∀ flag, ((quotedEnd flag (offset + c.utf8Size) t).map (· + 1)).getD
        (offset + byteLen (c :: t)) =
          offset + byteLen ((quotedLiteral flag t).map (c :: ·) id).1 := by
      intro flag
      have h_step := ih flag (offset + c.utf8Size)
      rw [Nat.add_assoc, Nat.add_assoc] at h_step
      exact h_step
    -- an escaped character is passed whatever it is
    cases escaped with
    | true => exact h_next false
    | false =>
      rw [quotedEnd, quotedLiteral]
      by_cases h_backslash : c = '\\'
      · subst h_backslash
        rw [if_pos rfl, if_neg (by decide)]
        exact h_next true
      · rw [if_neg h_backslash]
        by_cases h_quote : c = '"'
        · subst h_quote
          rw [if_pos rfl, if_pos rfl]
          rfl
        · have h_flag : (c == '\\') = false := beq_eq_false_iff_ne.mpr h_backslash
          rw [if_neg h_quote, if_neg h_quote, h_flag]
          exact h_next false

/-- **`string_literal_len` measures the literal that the lexer cuts.** -/
theorem stringLiteralLen_cut (t : Text) :
    stringLiteralLen t = some ((cutLiteral t).map fun p => byteLen p.1) := by
  have h_three : byteLen tripleQuote = 3 := rfl
  unfold cutLiteral
  split
  · -- a block string, closed or not
    next t =>
    obtain ⟨found, h_end, h_found⟩ := blockStringEnd_cut [] t (Nat.lt_succ_self t.length)
    have h_strip : stripPrefix tripleQuote ('"' :: '"' :: '"' :: t) = some t :=
      stripPrefix_append tripleQuote t
    have h_length : ∀ w : Text, byteLen (tripleQuote ++ w) = 3 + byteLen w :=
      fun w => byteLen_append tripleQuote w
    change _ = byteLen (blockLiteral false t).1 at h_found
    change _ = some (some (byteLen (tripleQuote ++ (blockLiteral false t).1)))
    rw [stringLiteralLen_block h_strip,
      show blockStringEnd t (t.length + 1) 0 = some found from h_end, h_length, ← h_found]
    cases found with
    | none => exact congrArg some (congrArg some (h_length t))
    | some stop => exact congrArg some (congrArg some (Nat.add_assoc 3 stop 3))
  · -- a string in single quotes, which are not three
    next t h_block =>
    have h_strip : stripPrefix tripleQuote ('"' :: t) = none := by
      unfold stripPrefix
      refine if_neg fun h_pre => ?_
      obtain ⟨u, h_u⟩ := List.isPrefixOf_iff_prefix.mp h_pre
      exact h_block u (List.cons.inj h_u).2.symm
    have h_end := quotedEnd_cut false 0 t
    rw [stringLiteralLen_quoted h_strip]
    change _ = some (some (1 + byteLen (quotedLiteral false t).1))
    rw [Nat.zero_add, Nat.zero_add] at h_end
    rw [← h_end]
    cases quotedEnd false 0 t with
    | none => rfl
    | some offset => exact congrArg some (congrArg some (Nat.add_assoc 1 offset 1))
  · -- no string starts here
    next _ h_quote =>
    cases t with
    | nil => rfl
    | cons c t => exact stringLiteralLen_plain (fun h_c => h_quote t (h_c ▸ rfl)) t

/-! ### The closing parenthesis -/

/-- The search for the bracket ends, and what it finds is a bracket. -/
theorem matchingParenLoop_total (before t : Text) {fuel : ℕ} (h_fuel : t.length < fuel)
    (depth : ℕ) :
    ∃ found, matchingParenLoop (before ++ t) fuel depth (byteLen before) = some found ∧
      ∀ offset, found = some offset → ∃ inner after,
        t = inner ++ ')' :: after ∧ offset = byteLen (before ++ inner) := by
  induction fuel generalizing before t depth with
  | zero => exact absurd h_fuel (Nat.not_lt_zero _)
  | succ fuel ih =>
    -- a turn that passes `w` continues behind it with less to read
    have h_skip : ∀ w u depth, t = w ++ u → w ≠ [] → ∃ found,
        matchingParenLoop (before ++ t) fuel depth (byteLen before + byteLen w) = some found ∧
          ∀ offset, found = some offset → ∃ inner after,
            t = inner ++ ')' :: after ∧ offset = byteLen (before ++ inner) := by
      rintro w u depth rfl h_w
      have h_pos := List.length_pos_of_ne_nil h_w
      rw [List.length_append] at h_fuel
      obtain ⟨found, h_found, h_offset⟩ := ih (before ++ w) u (by omega) depth
      rw [List.append_assoc, byteLen_append] at h_found
      refine ⟨found, h_found, fun offset h => ?_⟩
      obtain ⟨inner, after, rfl, rfl⟩ := h_offset offset h
      exact ⟨w ++ inner, after, (List.append_assoc _ _ _).symm, by rw [List.append_assoc]⟩
    rw [matchingParenLoop, sliceFrom_append]
    cases t with
    | nil => exact ⟨none, rfl, fun _ h => by cases h⟩
    | cons c t =>
      simp only [Option.bind_eq_bind, Option.bind_some]
      rw [stringLiteralLen_cut]
      cases h_cut : cutLiteral (c :: t) with
      -- a literal is passed as a whole
      | some p =>
        obtain ⟨w, u⟩ := p
        obtain ⟨h_append, h_w⟩ := cutLiteral_append h_cut
        exact h_skip w u depth h_append.symm h_w
      -- a character opens, closes or is passed
      | none =>
        have h_size : c.utf8Size = byteLen [c] := rfl
        have h_next := fun depth => h_skip [c] t depth rfl (List.cons_ne_nil c [])
        rw [h_size]
        simp only [Option.map_none, Option.bind_some]
        split_ifs with h_open h_close
        · exact h_next (depth + 1)
        · subst h_close
          -- the depth decides what a closing parenthesis does
          match depth with
          | 0 => exact ⟨none, rfl, fun _ h => by cases h⟩
          | 1 =>
            refine ⟨some (byteLen before), rfl, fun offset h => ?_⟩
            obtain rfl := Option.some.inj h
            exact ⟨[], t, rfl, by rw [List.append_nil]⟩
          | depth + 2 => exact h_next (depth + 1)
        · exact h_next depth

/-! ### Variables -/

/-- The pieces go on with a name. -/
def startsName : List Piece → Bool
  | .character c :: _ => isNameChar c
  | _ => false

/-- The text of the pieces, with `inserted` behind each `$` that a name follows. -/
def renamePieces (inserted : Text) : List Piece → Text
  | [] => []
  | .literal w :: ps => w ++ renamePieces inserted ps
  | .character c :: ps =>
    c :: ((if c = '$' ∧ startsName ps then inserted else []) ++ renamePieces inserted ps)

/-- The rest of a name is left as it is. -/
theorem renamePieces_name {w : Text} (h : ∀ c ∈ w, isNameChar c = true) (inserted : Text)
    (ps : List Piece) :
    renamePieces inserted (w.map .character ++ ps) = w ++ renamePieces inserted ps := by
  induction w with
  | nil => rfl
  | cons c w ih =>
    obtain ⟨h_c, h_w⟩ := List.forall_mem_cons.mp h
    have h_dollar : c ≠ '$' := by
      rintro rfl
      exact absurd h_c (by decide)
    rw [List.map_cons, List.cons_append, renamePieces, ih h_w, if_neg (fun h => h_dollar h.1)]
    rfl

/-- No literal starts with a name character. -/
theorem cut_name {w : Text} (h : ∀ c ∈ w, isNameChar c = true) (t : Text) :
    cut (w ++ t) = w.map .character ++ cut t := by
  induction w with
  | nil => rfl
  | cons c w ih =>
    obtain ⟨h_c, h_w⟩ := List.forall_mem_cons.mp h
    have h_none : cutLiteral (c :: (w ++ t)) = none := by
      rw [← Option.not_isSome_iff_eq_none, cutLiteral_isSome]
      intro h_quote
      obtain rfl : c = '"' := Option.some.inj h_quote
      exact absurd h_c (by decide)
    rw [List.cons_append, cut_character h_none, ih h_w]
    rfl

/-- The name that a text starts with, if only the empty one. -/
theorem exists_name (t : Text) :
    ∃ w u, t = w ++ u ∧ (∀ c ∈ w, isNameChar c = true) ∧ Stops u := by
  induction t with
  | nil => exact ⟨[], [], rfl, fun _ h => (by cases h), fun _ h => (by cases h)⟩
  | cons c t ih =>
    cases h_c : isNameChar c with
    | true =>
      obtain ⟨w, u, rfl, h_w, h_stops⟩ := ih
      exact ⟨c :: w, u, rfl, List.forall_mem_cons.mpr ⟨h_c, h_w⟩, h_stops⟩
    | false =>
      refine ⟨[], c :: t, rfl, fun _ h => (by cases h), fun d h_d => ?_⟩
      obtain rfl := Option.some.inj h_d
      exact h_c

/-- Whether a name can start is read off the first character. -/
theorem startsName_cut (t : Text) : startsName (cut t) = t.head?.any isNameChar := by
  cases t with
  | nil => rw [cut]; rfl
  | cons c t =>
    cases h_cut : cutLiteral (c :: t) with
    | some p =>
      have h_quote := (cutLiteral_isSome _).mp (Option.isSome_iff_exists.mpr ⟨p, h_cut⟩)
      obtain rfl : c = '"' := Option.some.inj h_quote
      rw [cut_literal h_cut]
      rfl
    | none =>
      rw [cut_character h_cut]
      rfl

/-- **The loop renames piece by piece.** -/
theorem renameVariablesLoop_cut (aliasName t : Text) {fuel : ℕ} (h_fuel : t.length < fuel)
    (renamed : Text) : renameVariablesLoop aliasName fuel t renamed =
      some (renamed ++ renamePieces (aliasName ++ ['_']) (cut t)) := by
  induction fuel generalizing t renamed with
  | zero => exact absurd h_fuel (Nat.not_lt_zero _)
  | succ fuel ih =>
    -- the end of the text, a literal, or a character
    cases t with
    | nil =>
      rw [cut]
      exact congrArg some (List.append_nil renamed).symm
    | cons c t =>
      rw [List.length_cons] at h_fuel
      rw [renameVariablesLoop, stringLiteralLen_cut]
      cases h_cut : cutLiteral (c :: t) with
      | some p =>
        obtain ⟨w, u⟩ := p
        obtain ⟨h_append, h_w⟩ := cutLiteral_append h_cut
        have h_shorter := cutLiteral_length h_cut
        rw [List.length_cons] at h_shorter
        -- a literal is copied
        rw [cut_literal h_cut, renamePieces, ← h_append]
        simp only [Option.bind_eq_bind, Option.bind_some, Option.map_some, sliceTo_append,
          sliceFrom_append]
        rw [ih u (by omega), List.append_assoc]
      | none =>
        have h_slice : sliceFrom (c :: t) c.utf8Size = some t := sliceFrom_append [c] t
        rw [cut_character h_cut, renamePieces]
        simp only [Option.bind_eq_bind, Option.bind_some, Option.map_none, h_slice]
        by_cases h_dollar : c = '$'
        · -- the name behind the dollar sign ends where the source finds its end
          obtain ⟨w, u, rfl, h_w, h_stops⟩ := exists_name t
          rw [List.length_append] at h_fuel
          rw [if_pos h_dollar, findChar_name h_w h_stops, startsName_cut]
          cases w with
          -- a dollar sign without a name behind it stays as it is
          | nil =>
            have h_none : ¬ (c = '$' ∧ u.head?.any isNameChar = true) := by
              rintro ⟨-, h_any⟩
              cases h_u : u.head? with
              | none => rw [h_u] at h_any; cases h_any
              | some d =>
                rw [h_u, Option.any_some, h_stops d h_u] at h_any
                cases h_any
            have h_empty : ¬ 0 < byteLen [] := Nat.lt_irrefl 0
            rw [if_neg h_empty, List.nil_append, ih u (by omega), if_neg h_none,
              List.append_assoc]
            rfl
          -- the alias goes in between the sign and the name
          | cons d w =>
            have h_some : c = '$' ∧ ((d :: w) ++ u).head?.any isNameChar = true :=
              ⟨h_dollar, h_w d List.mem_cons_self⟩
            have h_pos : 0 < byteLen (d :: w) := Nat.pos_of_ne_zero (byteLen_cons_pos d w)
            rw [if_pos h_pos, sliceTo_append, sliceFrom_append, if_pos h_some, cut_name h_w,
              renamePieces_name h_w]
            simp only [Option.bind_some]
            rw [ih u (by rw [List.length_cons] at h_fuel; omega)]
            simp
        · -- any other character is copied
          rw [if_neg h_dollar, if_neg (fun h => h_dollar h.1), ih t (by omega), List.append_assoc]
          rfl

/-- **`rename_variables` is the reference renaming.** -/
theorem renameVariables_cut (t aliasName : Text) :
    renameVariables t aliasName = some (renamePieces (aliasName ++ ['_']) (cut t)) :=
  renameVariablesLoop_cut aliasName t (Nat.lt_succ_self _) []

/-! ### Taking the alias out again -/

/-- The places behind a `$` that a name follows: the number of characters from
one to the next, the first one from `n` characters before the pieces. -/
def places : ℕ → List Piece → List ℕ
  | _, [] => []
  | n, .literal w :: ps => places (n + w.length) ps
  | n, .character c :: ps =>
    if c = '$' ∧ startsName ps then (n + 1) :: places 0 ps else places (n + 1) ps

/-- Takes `inserted` out of a text at each of the places. It has to be there. -/
def removeAt (inserted : Text) : List ℕ → Text → Option Text
  | [], t => some t
  | n :: ns, t => do
    let behind ← stripPrefix inserted (t.drop n)
    let restored ← removeAt inserted ns behind
    pure (t.take n ++ restored)

/-- The pieces make up the text. -/
theorem cut_text (t : Text) : (cut t).flatMap Piece.text = t := by
  fun_induction cut t with
  | case1 => rfl
  | case2 c t w rest h ih =>
    rw [List.flatMap_cons, ih]
    exact (cutLiteral_append h).1
  | case3 c t _ ih =>
    rw [List.flatMap_cons, ih]
    rfl

/-- What was put behind the `$`s is all that was added. -/
theorem removeAt_places (inserted : Text) (ps : List Piece) (before : Text) :
    removeAt inserted (places before.length ps) (before ++ renamePieces inserted ps) =
      some (before ++ ps.flatMap Piece.text) := by
  induction ps generalizing before with
  | nil => rfl
  | cons p ps ih =>
    -- a literal is passed, a character is checked for a variable
    cases p with
    | literal w =>
      have h_rest := ih (before ++ w)
      rw [List.length_append, List.append_assoc, List.append_assoc] at h_rest
      exact h_rest
    | character c =>
      have h_length : before.length + 1 = (before ++ [c]).length := by
        rw [List.length_append]
        rfl
      rw [places, renamePieces, List.append_cons before c, h_length]
      -- behind a variable the inserted text is taken out
      by_cases h_variable : c = '$' ∧ startsName ps = true
      · have h_rest : removeAt inserted (places 0 ps) (renamePieces inserted ps) =
            some (ps.flatMap Piece.text) := ih []
        rw [if_pos h_variable, if_pos h_variable, removeAt, List.drop_left, stripPrefix_append]
        simp only [Option.bind_eq_bind, Option.bind_some, h_rest, List.take_left]
        rw [List.append_assoc]
        rfl
      · have h_rest := ih (before ++ [c])
        rw [if_neg h_variable, if_neg h_variable, List.nil_append, h_rest, List.append_assoc]
        rfl

/-! ### Reading the result -/

/-- Takes the first `n` pieces out behind each `$` that a name follows; the second
number says how many are still to be taken out. -/
def removeBehind (n : ℕ) : ℕ → List Piece → Text
  | _, [] => []
  | k + 1, _ :: ps => removeBehind n k ps
  | 0, .literal w :: ps => w ++ removeBehind n 0 ps
  | 0, .character c :: ps =>
    c :: removeBehind n (if c = '$' ∧ startsName ps then n else 0) ps

/-- The characters of a removed prefix are skipped. -/
theorem removeBehind_skip (n : ℕ) (w : Text) (ps : List Piece) :
    removeBehind n w.length (w.map .character ++ ps) = removeBehind n 0 ps := by
  induction w with
  | nil => rfl
  | cons c w ih => exact ih

/-- A block string that is closed does not depend on what follows it. -/
theorem blockLiteral_replace {escaped : Bool} {t w rest : Text}
    (h : blockLiteral escaped t = (w, rest)) (h_closed : rest ≠ []) (rest' : Text) :
    tripleQuote.length ≤ w.length ∧ blockLiteral escaped (w ++ rest') = (w, rest') := by
  fun_induction blockLiteral escaped t generalizing w with
  | case1 =>
    -- the cases of `blockLiteral`: unclosed, closed, an escaped quote, another character
    obtain ⟨rfl, rfl⟩ := Prod.mk.inj h
    exact absurd rfl h_closed
  | case2 t =>
    obtain ⟨rfl, rfl⟩ := Prod.mk.inj h
    exact ⟨Nat.le_refl _, blockLiteral_quotes rest'⟩
  | case3 t ih =>
    obtain ⟨rfl, h_rest⟩ := Prod.mk.inj h
    obtain ⟨-, h_eq⟩ := ih (Prod.ext rfl h_rest)
    refine ⟨?_, ?_⟩
    · rw [List.length_append]
      exact Nat.le_add_right _ _
    · rw [List.append_assoc, blockLiteral_escaped, h_eq]
      rfl
  | case4 escaped c t h_closing h_escaped ih =>
    obtain ⟨rfl, h_rest⟩ := Prod.mk.inj h
    obtain ⟨h_length, h_eq⟩ := ih (Prod.ext rfl h_rest)
    refine ⟨Nat.le_succ_of_le h_length, ?_⟩
    -- the character opens no closing quotes, whatever follows the literal
    have h_open : ¬ tripleQuote <+: c :: ((blockLiteral (c == '\\') t).1 ++ rest') := by
      intro h_pre
      have h_w := List.prefix_of_prefix_length_le h_pre
        (List.prefix_append (c :: (blockLiteral (c == '\\') t).1) rest')
        (Nat.le_succ_of_le h_length)
      obtain ⟨u, h_u⟩ := h_w.trans (List.prefix_append _ (blockLiteral (c == '\\') t).2)
      rw [List.cons_append, blockLiteral_append] at h_u
      obtain ⟨h_c, h_t⟩ := List.cons.inj h_u
      cases escaped with
      | false => exact h_closing u rfl h_c.symm h_t.symm
      | true => exact h_escaped u rfl h_c.symm h_t.symm
    rw [List.cons_append, blockLiteral_char h_open, h_eq]
    rfl

/-- A string that is closed is the same whatever follows it. -/
theorem quotedLiteral_replace {escaped : Bool} {t w rest : Text}
    (h : quotedLiteral escaped t = (w, rest)) (h_closed : rest ≠ []) (rest' : Text) :
    w ≠ [] ∧ quotedLiteral escaped (w ++ rest') = (w, rest') := by
  fun_induction quotedLiteral escaped t generalizing w with
  | case1 =>
    obtain ⟨rfl, rfl⟩ := Prod.mk.inj h
    exact absurd rfl h_closed
  | case2 c t ih =>
    obtain ⟨rfl, h_rest⟩ := Prod.mk.inj h
    obtain ⟨-, h_eq⟩ := ih (Prod.ext rfl h_rest)
    refine ⟨List.cons_ne_nil _ _, ?_⟩
    rw [List.cons_append, quotedLiteral, h_eq]
    rfl
  | case3 t =>
    obtain ⟨rfl, rfl⟩ := Prod.mk.inj h
    exact ⟨List.cons_ne_nil _ _, rfl⟩
  | case4 c t h_quote ih =>
    obtain ⟨rfl, h_rest⟩ := Prod.mk.inj h
    obtain ⟨-, h_eq⟩ := ih (Prod.ext rfl h_rest)
    refine ⟨List.cons_ne_nil _ _, ?_⟩
    rw [List.cons_append, quotedLiteral, if_neg h_quote, h_eq]
    rfl

/-- **A literal is cut off in the same way** in front of a text that starts with
the same character. -/
theorem cutLiteral_replace {t w rest rest' : Text} (h : cutLiteral t = some (w, rest))
    (h_head : rest'.head? = rest.head?) : cutLiteral (w ++ rest') = some (w, rest') := by
  have h_append := (cutLiteral_append h).1
  cases rest with
  | nil =>
    obtain rfl := List.head?_eq_none_iff.mp h_head
    rw [h_append]
    exact h
  | cons c u =>
    obtain ⟨u', rfl⟩ : ∃ u', rest' = c :: u' := List.head?_eq_some_iff.mp h_head
    unfold cutLiteral at h
    -- a block literal, or a quoted one
    split at h
    · next body =>
      obtain ⟨rfl, h_rest⟩ := Prod.mk.inj (Option.some.inj h)
      change (blockLiteral false body).2 = c :: u at h_rest
      have h_pair : blockLiteral false body = (_, c :: u) := Prod.ext rfl h_rest
      have h_block := blockLiteral_replace h_pair (List.cons_ne_nil c u) (c :: u')
      change some ((blockLiteral false ((blockLiteral false body).1 ++ c :: u')).map
        (tripleQuote ++ ·) id) = _
      rw [h_block.2]
      rfl
    · next body h_quotes =>
      obtain ⟨rfl, h_rest⟩ := Prod.mk.inj (Option.some.inj h)
      change (quotedLiteral false body).2 = c :: u at h_rest
      have h_pair : quotedLiteral false body = (_, c :: u) := Prod.ext rfl h_rest
      obtain ⟨h_ne, h_quoted⟩ := quotedLiteral_replace h_pair (List.cons_ne_nil c u) (c :: u')
      have h_length := List.length_pos_of_ne_nil h_ne
      -- the first three characters are those of the text that was cut
      have h_open : ¬ tripleQuote <+: '"' :: ((quotedLiteral false body).1 ++ c :: u') := by
        rw [List.append_cons _ c u', ← List.cons_append]
        have h_three : tripleQuote.length ≤
            ('"' :: ((quotedLiteral false body).1 ++ [c])).length := by
          rw [List.length_cons, List.length_append, List.length_singleton]
          exact Nat.succ_le_succ (Nat.succ_le_succ h_length)
        intro h_pre
        have h_w := List.prefix_of_prefix_length_le h_pre
          (List.prefix_append ('"' :: ((quotedLiteral false body).1 ++ [c])) u')
          h_three
        obtain ⟨v, h_v⟩ := h_w.trans (List.prefix_append _ u)
        rw [List.cons_append, ← List.append_cons, ← h_rest, quotedLiteral_append] at h_v
        exact h_quotes v (List.cons.inj h_v).2.symm
      change cutLiteral ('"' :: ((quotedLiteral false body).1 ++ c :: u')) = _
      rw [cutLiteral_quoted h_open, h_quoted]
      rfl
    · cases h

/-- Renaming does not touch the first character. -/
theorem renamePieces_head? (inserted t : Text) :
    (renamePieces inserted (cut t)).head? = t.head? := by
  cases t with
  | nil =>
    rw [cut]
    rfl
  | cons c t =>
    cases h_cut : cutLiteral (c :: t) with
    | some p =>
      obtain ⟨w, u⟩ := p
      obtain ⟨h_append, h_w⟩ := cutLiteral_append h_cut
      obtain ⟨d, w, rfl⟩ := List.exists_cons_of_ne_nil h_w
      rw [cut_literal h_cut, renamePieces, ← h_append]
      rfl
    | none =>
      rw [cut_character h_cut]
      rfl

/-- **The result is read as it was put together**: behind each `$` that a name
follows in it stands the alias. -/
theorem removeBehind_cut {inserted : Text} (h_ne : inserted ≠ [])
    (h_name : ∀ c ∈ inserted, isNameChar c = true) (t : Text) :
    removeBehind inserted.length 0 (cut (renamePieces inserted (cut t))) = t := by
  fun_induction cut t with
  | case1 =>
    change removeBehind _ 0 (cut []) = []
    rw [cut]
    rfl
  | case2 c t w rest h ih =>
    -- what is renamed behind the literal does not change where it ends
    have h_same := cutLiteral_replace h (renamePieces_head? inserted rest)
    rw [renamePieces, cut_literal h_same, removeBehind, ih]
    exact (cutLiteral_append h).1
  | case3 c t h_none ih =>
    have h_plain : ∀ u, cutLiteral (c :: u) = none := by
      intro u
      rw [← Option.not_isSome_iff_eq_none, cutLiteral_isSome] at h_none ⊢
      exact h_none
    rw [renamePieces, cut_character (h_plain _), removeBehind]
    -- the variable is the place where the alias was inserted
    by_cases h_variable : c = '$' ∧ startsName (cut t) = true
    · have h_starts : startsName (inserted.map .character ++ cut (renamePieces inserted (cut t))) =
          true := by
        obtain ⟨d, w, rfl⟩ := List.exists_cons_of_ne_nil h_ne
        exact h_name d List.mem_cons_self
      rw [if_pos h_variable, cut_name h_name, if_pos ⟨h_variable.1, h_starts⟩, removeBehind_skip,
        ih]
    · have h_starts : startsName (cut (renamePieces inserted (cut t))) = startsName (cut t) := by
        rw [startsName_cut, startsName_cut, renamePieces_head?]
      rw [if_neg h_variable, List.nil_append, h_starts, if_neg h_variable, ih]

/-- **`rename_variables` renames exactly the variables**, in every text and for
every alias.

* Its result is the reference renaming, so it returns, on every text.
* Taking the alias out again at the places behind the renamed `$`s gives the text
  back. If the alias is a name, as those of the slots are, the result alone tells
  these places: they are those behind the `$`s that a name follows.
* `string_literal_len` finds a literal exactly where there is a quote, and measures
  what the reference lexer cuts: at least one character, ending inside the text
  and between two of its characters.
* So the scan of `matching_paren` ends as well. -/
theorem rename_variables_renames_exactly_the_variables (text aliasName : Text) :
    (∃ renamed, renameVariables text aliasName = some renamed ∧
      renamed = renamePieces (aliasName ++ ['_']) (cut text) ∧
      removeAt (aliasName ++ ['_']) (places 0 (cut text)) renamed = some text ∧
      ((∀ c ∈ aliasName, isNameChar c = true) →
        removeBehind (aliasName ++ ['_']).length 0 (cut renamed) = text)) ∧
    (∃ length, stringLiteralLen text = some length ∧
      (length.isSome ↔ text.head? = some '"') ∧
      ∀ n, length = some n ↔ ∃ w rest, text = w ++ rest ∧ byteLen w = n ∧ 0 < n ∧
        n ≤ byteLen text ∧ sliceTo text n = some w ∧ sliceFrom text n = some rest ∧
        cut text = .literal w :: cut rest) ∧
    (cut text).flatMap Piece.text = text ∧
    ∃ close, matchingParen text = some close := by
  refine ⟨⟨_, renameVariables_cut text aliasName, rfl, ?_, ?_⟩,
    ⟨_, stringLiteralLen_cut text, ?_, ?_⟩, cut_text text, ?_⟩
  · have h_places := removeAt_places (aliasName ++ ['_']) (cut text) []
    rw [cut_text] at h_places
    exact h_places
  · intro h_name
    refine removeBehind_cut (List.append_ne_nil_of_right_ne_nil _ (List.cons_ne_nil '_' [])) ?_ text
    intro c h_c
    rcases List.mem_append.mp h_c with h | h
    · exact h_name c h
    · obtain rfl := List.mem_singleton.mp h
      decide
  · -- a literal is found where one is cut off
    rw [Option.isSome_map]
    exact cutLiteral_isSome text
  · intro n
    constructor
    · intro h_n
      -- a length is that of the literal that is cut off
      obtain ⟨⟨w, rest⟩, h_cut, rfl⟩ := Option.map_eq_some_iff.mp h_n
      obtain ⟨h_append, h_w⟩ := cutLiteral_append h_cut
      obtain ⟨c, w, rfl⟩ := List.exists_cons_of_ne_nil h_w
      refine ⟨c :: w, rest, h_append.symm, rfl, Nat.pos_of_ne_zero (byteLen_cons_pos c w), ?_, ?_,
        ?_, cut_literal h_cut⟩
      · rw [← h_append, byteLen_append]
        exact Nat.le_add_right _ _
      · rw [← h_append, sliceTo_append]
      · rw [← h_append, sliceFrom_append]
    · -- and what is cut off has that length
      rintro ⟨w, rest, h_text, h_length, -, -, -, -, h_pieces⟩
      cases h_cut : cutLiteral text with
      | some p =>
        obtain ⟨w', rest'⟩ := p
        rw [cut_literal h_cut] at h_pieces
        obtain ⟨h_w, -⟩ := List.cons.inj h_pieces
        obtain rfl := Piece.literal.inj h_w
        exact congrArg some h_length
      | none =>
        cases text with
        | nil =>
          rw [cut] at h_pieces
          cases h_pieces
        | cons c t =>
          rw [cut_character h_cut] at h_pieces
          cases (List.cons.inj h_pieces).1
  · obtain ⟨close, h_close, -⟩ := matchingParenLoop_total [] text (Nat.lt_succ_self text.length) 0
    exact ⟨close, h_close⟩

end Blokli
