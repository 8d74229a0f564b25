import BlokliClient.Scanner

/-!
# Splitting a document

`split_document` looks for the first bracket, for the parenthesis that closes it,
and for the outermost braces of what follows, all by byte offset.

* `splitDocument_parenthesised` and `splitDocument_bare`: what it makes of the two
  forms of a subscription, given what `matching_paren` finds. Nothing is asked of
  the operation name but that no bracket is in it, and nothing at all of the body.
* `matchingParen_cut`: `matching_paren` finds the end of definitions whose literals
  are closed and whose parentheses are balanced outside of them.
* `splitDocument_total`: on any text, every slice is inside the text and between
  two characters.
-/

namespace Blokli

/-! ### White space -/

def IsSpace (t : Text) : Prop := ∀ c ∈ t, isWhitespace c = true

theorem isSpace_of_all {t : Text} (h : t.all isWhitespace = true) : IsSpace t :=
  List.all_eq_true.mp h

theorem trimStart_append {s t : Text} (h : IsSpace s)
    (h_t : ∀ c, t.head? = some c → isWhitespace c = false) : trimStart (s ++ t) = t := by
  unfold trimStart
  rw [List.dropWhile_append_of_pos h]
  cases t with
  | nil => rfl
  | cons c t => rw [List.dropWhile_cons_of_neg (by rw [h_t c rfl]; exact Bool.false_ne_true)]

/-- Trimming stops in front of a character that is not white space. -/
theorem trimStart_append_cons (s : Text) {c : Char} (h_c : isWhitespace c = false) (t : Text) :
    trimStart (s ++ c :: t) = trimStart s ++ c :: t := by
  unfold trimStart
  induction s with
  | nil => exact List.dropWhile_cons_of_neg (by rw [h_c]; exact Bool.false_ne_true)
  | cons d s ih =>
    rw [List.cons_append]
    by_cases h_d : isWhitespace d = true
    · rw [List.dropWhile_cons_of_pos h_d, List.dropWhile_cons_of_pos h_d, ih]
    · rw [List.dropWhile_cons_of_neg h_d, List.dropWhile_cons_of_neg h_d]
      rfl

/-! ### The parts of a document -/

/-- No bracket is in front of the definitions and the body. -/
def Bracketless (header : Text) : Prop := ∀ c ∈ header, c ≠ '(' ∧ c ≠ '\x7b'

theorem Bracketless.append {s t : Text} (h_s : Bracketless s) (h_t : Bracketless t) :
    Bracketless (s ++ t) :=
  fun c h_c => (List.mem_append.mp h_c).elim (h_s c) (h_t c)

theorem IsSpace.bracketless {t : Text} (h : IsSpace t) : Bracketless t := by
  intro c h_c
  have h_space := h c h_c
  constructor
  · rintro rfl
    exact absurd h_space (by decide)
  · rintro rfl
    exact absurd h_space (by decide)

section Parts

variable {before header definitions afterDefinitions body behind : Text}

/-- The first bracket ends the head of a document. -/
theorem findChar_header (h : Bracketless header) {c : Char} (h_c : c = '(' ∨ c = '\x7b')
    (t : Text) :
    findChar (fun c => c == '(' || c == '\x7b') (trimStart (header ++ c :: t)) =
        some (byteLen (trimStart header)) ∧
      sliceFrom (trimStart (header ++ c :: t)) (byteLen (trimStart header)) = some (c :: t) := by
  have h_space : isWhitespace c = false := by
    rcases h_c with rfl | rfl
    · rfl
    · rfl
  have h_bracket : (c == '(' || c == '\x7b') = true := by
    rcases h_c with rfl | rfl
    · rfl
    · rfl
  have h_plain : ∀ d ∈ trimStart header, (d == '(' || d == '\x7b') = false := by
    intro d h_d
    obtain ⟨h_paren, h_brace⟩ := h d ((List.dropWhile_suffix isWhitespace).mem h_d)
    rw [beq_eq_false_iff_ne.mpr h_paren, beq_eq_false_iff_ne.mpr h_brace]
    rfl
  rw [trimStart_append_cons header h_space]
  exact ⟨findChar_append h_plain c t h_bracket, sliceFrom_append _ _⟩

/-- **The body of a document**: from its first brace to the last one of the text. -/
theorem selection_body
    (body : Text) (h_definitions : IsSpace afterDefinitions) (h_behind : IsSpace behind) :
    trimStart (afterDefinitions ++ '\x7b' :: (body ++ '\x7d' :: behind)) =
        '\x7b' :: (body ++ '\x7d' :: behind) ∧
      rfindChar (· == '\x7d') ('\x7b' :: (body ++ '\x7d' :: behind)) =
        some (byteLen ('\x7b' :: body)) ∧
      ¬ byteLen ('\x7b' :: body) ≤ 0 ∧
      sliceRange ('\x7b' :: (body ++ '\x7d' :: behind)) (0 + 1) (byteLen ('\x7b' :: body)) =
        some body := by
  refine ⟨trimStart_append h_definitions fun c h_c => ?_, ?_, ?_, ?_⟩
  · obtain rfl : '\x7b' = c := Option.some.inj h_c
    rfl
  · refine rfindChar_append ('\x7b' :: body) rfl fun c h_c => ?_
    rw [← Bool.not_eq_true, beq_iff_eq]
    rintro rfl
    exact absurd (h_behind _ h_c) (by decide)
  · exact fun h_le => byteLen_cons_pos _ _ (Nat.le_zero.mp h_le)
  · exact sliceRange_append ['\x7b'] body _

theorem trimStart_keyword (h_before : IsSpace before) (t : Text) :
    trimStart (before ++ ("subscription".toList ++ t)) = "subscription".toList ++ t := by
  refine trimStart_append h_before fun c h_c => ?_
  obtain rfl : 's' = c := Option.some.inj h_c
  rfl

/-- **A subscription without definitions.** -/
theorem splitDocument_bare (h_before : IsSpace before) (h_header : Bracketless header)
    (h_behind : IsSpace behind) :
    (splitDocument (before ++ ("subscription".toList ++
      (header ++ '\x7b' :: (body ++ '\x7d' :: behind))))).run = some (.ok ([], body)) := by
  let selection : Text := '\x7b' :: (body ++ '\x7d' :: behind)
  have h_nil : IsSpace [] := fun c h_c => by cases h_c
  obtain ⟨h_find, h_slice⟩ :=
    findChar_header h_header (Or.inr rfl) (body ++ '\x7d' :: behind)
  obtain ⟨h_trim, h_close, h_order, h_field⟩ := selection_body body h_nil h_behind
  have h_open : findChar (· == '\x7b') selection = some 0 := rfl
  unfold splitDocument
  simp only [trimStart_keyword h_before, stripPrefix_append, h_find]
  refine checked_bind_ok.mpr ⟨selection, congrArg (Option.map Except.ok) h_slice, ?_⟩
  refine checked_bind_ok.mpr ⟨([], selection), rfl, ?_⟩
  rw [List.nil_append] at h_trim
  dsimp only
  rw [h_trim, h_open, h_close]
  dsimp only
  rw [if_neg h_order]
  exact checked_bind_ok.mpr ⟨_, congrArg (Option.map Except.ok) h_field, rfl⟩

/-- **A subscription with definitions**, whose end `matching_paren` finds. -/
theorem splitDocument_parenthesised (h_before : IsSpace before) (h_header : Bracketless header)
    (h_definitions : IsSpace afterDefinitions) (h_behind : IsSpace behind)
    (h_paren : matchingParen ('(' :: (definitions ++ ')' :: (afterDefinitions ++
      '\x7b' :: (body ++ '\x7d' :: behind)))) = some (some (byteLen ('(' :: definitions)))) :
    (splitDocument (before ++ ("subscription".toList ++ (header ++ '(' :: (definitions ++
      ')' :: (afterDefinitions ++ '\x7b' :: (body ++ '\x7d' :: behind))))))).run =
        some (.ok (definitions, body)) := by
  let selection : Text := '\x7b' :: (body ++ '\x7d' :: behind)
  let inner : Text := definitions ++ ')' :: (afterDefinitions ++ selection)
  -- the parenthesis comes before the brace of the selection
  obtain ⟨h_find, h_slice⟩ := findChar_header h_header (Or.inl rfl) inner
  obtain ⟨h_trim, h_close, h_order, h_field⟩ :=
    selection_body body h_definitions h_behind
  have h_open : findChar (· == '\x7b') selection = some 0 := rfl
  have h_inside : sliceRange ('(' :: inner) 1 (byteLen ('(' :: definitions)) = some definitions :=
    sliceRange_append ['('] definitions _
  -- what follows the closing parenthesis
  have h_after : sliceFrom ('(' :: inner) (byteLen ('(' :: definitions) + 1) =
      some (afterDefinitions ++ selection) := by
    have h_length : byteLen ('(' :: definitions) + 1 = byteLen ('(' :: definitions ++ [')']) :=
      (byteLen_append _ [')']).symm
    have h_inner : '(' :: inner =
        ('(' :: definitions ++ [')']) ++ (afterDefinitions ++ selection) := by
      simp [inner]
    rw [h_length, h_inner]
    exact sliceFrom_append _ _
  change (splitDocument (before ++ ("subscription".toList ++ (header ++ '(' :: inner)))).run = _
  unfold splitDocument
  simp only [trimStart_keyword h_before, stripPrefix_append, h_find]
  -- the slices of `splitDocument`, one after another
  refine checked_bind_ok.mpr ⟨'(' :: inner, congrArg (Option.map Except.ok) h_slice, ?_⟩
  refine checked_bind_ok.mpr ⟨_, congrArg (Option.map Except.ok) h_paren, ?_⟩
  refine checked_bind_ok.mpr ⟨_, congrArg (Option.map Except.ok) h_inside, ?_⟩
  refine checked_bind_ok.mpr ⟨_, congrArg (Option.map Except.ok) h_after, ?_⟩
  refine checked_bind_ok.mpr ⟨(definitions, afterDefinitions ++ selection), rfl, ?_⟩
  dsimp only
  rw [h_trim, h_open, h_close]
  dsimp only
  rw [if_neg h_order]
  exact checked_bind_ok.mpr ⟨_, congrArg (Option.map Except.ok) h_field, rfl⟩

end Parts

/-! ### Definitions whose parentheses are balanced -/

/-- The depth of parentheses behind the pieces, if none is closed that was not
opened. -/
def depthAfter : ℕ → List Piece → Option ℕ
  | depth, [] => some depth
  | depth, .literal _ :: ps => depthAfter depth ps
  | depth, .character c :: ps =>
    if c = '(' then depthAfter (depth + 1) ps
    else if c = ')' then
      if depth = 0 then none else depthAfter (depth - 1) ps
    else depthAfter depth ps

/-- **Well-formed definitions**: the literals are closed, and the parentheses are
balanced outside of them. -/
structure WellParenthesised (definitions : Text) : Prop where
  closed : ∀ w, .literal w ∈ cut definitions → StringLiteral w
  balanced : depthAfter 0 (cut definitions) = some 0

/-- An empty string is not followed by a quote: that would be a block string. -/
theorem cutLiteral_apart {t rest : Text} (h : cutLiteral t = some (emptyString, rest)) :
    rest.head? ≠ some '"' := by
  intro h_quote
  obtain ⟨u, rfl⟩ := List.head?_eq_some_iff.mp h_quote
  obtain rfl := (cutLiteral_append h).1
  have h_block : cutLiteral (tripleQuote ++ u) =
      some ((blockLiteral false u).map (tripleQuote ++ ·) id) := rfl
  have h_w := (Prod.mk.inj (Option.some.inj (h_block.symm.trans h))).1
  exact absurd (congrArg List.length h_w) (by
    rw [List.length_append]
    change 3 + _ ≠ 2
    omega)

/-- The scan goes through balanced text with the depth that the pieces have. -/
theorem matchingParenLoop_cut {t : Text} {depth : ℕ}
    (h_closed : ∀ w, .literal w ∈ cut t → StringLiteral w)
    (h_depth : depthAfter depth (cut t) = some 0) {text before rest : Text}
    (h_text : text = before ++ (t ++ ')' :: rest)) {fuel : ℕ} (h_fuel : t.length < fuel) :
    matchingParenLoop text fuel (depth + 1) (byteLen before) =
      some (some (byteLen (before ++ t))) := by
  -- the induction follows the pieces of `t`: its end, a literal, a character
  fun_induction cut t generalizing depth before fuel with
  | case1 =>
    obtain ⟨n, rfl⟩ := Nat.exists_eq_succ_of_ne_zero (Nat.ne_of_gt h_fuel)
    obtain rfl : depth = 0 := Option.some.inj h_depth
    rw [matchingParenLoop_close h_text n 0, if_pos rfl, List.append_nil]
  -- a literal is passed in one turn, whatever parentheses are in it
  | case2 c t w u h_cut ih =>
    obtain ⟨n, rfl⟩ := Nat.exists_eq_succ_of_ne_zero (Nat.ne_of_gt (Nat.zero_lt_of_lt h_fuel))
    have h_shorter := cutLiteral_length h_cut
    have h_append := (cutLiteral_append h_cut).1
    have h_apart : w = emptyString → (u ++ ')' :: rest).head? ≠ some '"' := by
      rintro rfl
      have h_u := cutLiteral_apart h_cut
      cases u with
      | nil => exact fun h => absurd (Option.some.inj h) (by decide)
      | cons d u => exact h_u
    -- the literal, and then the rest as the induction has it
    have h_text₁ : text = before ++ (w ++ (u ++ ')' :: rest)) := by
      rw [h_text, ← h_append, List.append_assoc]
    have h_text₂ : text = before ++ w ++ (u ++ ')' :: rest) := by rw [h_text₁, List.append_assoc]
    obtain ⟨h_w, h_rest⟩ := List.forall_mem_cons.mp fun p (h_p : p ∈ Piece.literal w :: cut u) w' =>
      fun h_eq : p = .literal w' => h_closed w' (h_eq ▸ h_p)
    have h_next := ih (fun w' h_w' => h_rest _ h_w' w' rfl) h_depth h_text₂
      (Nat.lt_of_lt_of_le h_shorter (Nat.lt_succ_iff.mp h_fuel))
    rw [matchingParenLoop_literal (h_w w rfl) h_apart h_text₁ n (depth + 1), h_next, ← h_append,
      List.append_assoc]
  | case3 c t h_cut ih =>
    obtain ⟨n, rfl⟩ := Nat.exists_eq_succ_of_ne_zero (Nat.ne_of_gt (Nat.zero_lt_of_lt h_fuel))
    have h_rest : ∀ w, .literal w ∈ cut t → StringLiteral w :=
      fun w h_w => h_closed w (List.mem_cons_of_mem _ h_w)
    have h_text₁ : text = before ++ c :: (t ++ ')' :: rest) := h_text
    have h_text₂ : text = before ++ [c] ++ (t ++ ')' :: rest) := by rw [h_text₁]; simp
    have h_fuel' : t.length < n := Nat.lt_of_succ_lt_succ h_fuel
    have h_end : before ++ [c] ++ t = before ++ c :: t := (List.append_cons before c t).symm
    rw [depthAfter] at h_depth
    -- a character counts for the depth, or is passed
    split_ifs at h_depth with h_open h_close h_zero
    · -- one level deeper
      subst h_open
      rw [matchingParenLoop_open h_text₁ n (depth + 1), ih h_rest h_depth h_text₂ h_fuel', h_end]
    · -- one level up, and not the end, which is behind `t`
      subst h_close
      cases depth with
      | zero => exact absurd rfl h_zero
      | succ depth =>
        have h_next : matchingParenLoop text n (depth + 1) (byteLen (before ++ [')'])) = _ :=
          ih h_rest h_depth h_text₂ h_fuel'
        rw [matchingParenLoop_close h_text₁ n (depth + 1), if_neg (Nat.succ_ne_zero depth),
          h_next, h_end]
    · -- a character that is neither, and opens no literal
      have h_quote : c ≠ '"' := by
        rw [← Option.not_isSome_iff_eq_none, cutLiteral_isSome] at h_cut
        exact fun h => h_cut (congrArg some h)
      have h_plain := matchingParenLoop_plain (w := [c])
        (List.forall_mem_singleton.mpr ⟨h_quote, h_open, h_close⟩) h_text₁ n (depth + 1)
      exact (h_plain.trans (ih h_rest h_depth h_text₂ h_fuel')).trans (by rw [h_end])

/-- **`matching_paren` finds the end of well-formed definitions.** -/
theorem matchingParen_cut {definitions : Text} (h : WellParenthesised definitions) (rest : Text) :
    matchingParen ('(' :: (definitions ++ ')' :: rest)) =
      some (some (byteLen ('(' :: definitions))) := by
  let text : Text := '(' :: (definitions ++ ')' :: rest)
  have h_text : text = [] ++ '(' :: (definitions ++ ')' :: rest) := rfl
  have h_text' : text = ['('] ++ (definitions ++ ')' :: rest) := rfl
  have h_fuel : definitions.length < text.length := by
    simp only [text, List.length_cons, List.length_append]
    omega
  exact (matchingParenLoop_open h_text text.length 0).trans
    (matchingParenLoop_cut h.closed h.balanced h_text' h_fuel)

/-! ### Any text -/

/-- Where a character is found, the text can be cut. -/
theorem findChar_some {p : Char → Bool} {t : Text} {n : ℕ} (h : findChar p t = some n) :
    ∃ s c u, t = s ++ c :: u ∧ n = byteLen s ∧ p c = true := by
  induction t generalizing n with
  | nil => cases h
  | cons c t ih =>
    rw [findChar] at h
    split_ifs at h with h_c
    · obtain rfl := Option.some.inj h
      exact ⟨[], c, t, rfl, rfl, h_c⟩
    · obtain ⟨m, h_m, rfl⟩ := Option.map_eq_some_iff.mp h
      obtain ⟨s, d, u, rfl, rfl, h_d⟩ := ih h_m
      exact ⟨c :: s, d, u, rfl, rfl, h_d⟩

theorem rfindChar_some {p : Char → Bool} {t : Text} {n : ℕ} (h : rfindChar p t = some n) :
    ∃ s c u, t = s ++ c :: u ∧ n = byteLen s ∧ p c = true := by
  induction t generalizing n with
  | nil => cases h
  | cons c t ih =>
    rw [rfindChar] at h
    cases h_rest : rfindChar p t with
    | some m =>
      rw [h_rest] at h
      obtain rfl := Option.some.inj h
      obtain ⟨s, d, u, rfl, rfl, h_d⟩ := ih h_rest
      exact ⟨c :: s, d, u, rfl, rfl, h_d⟩
    | none =>
      rw [h_rest] at h
      dsimp only at h
      split_ifs at h with h_c
      obtain rfl := Option.some.inj h
      exact ⟨[], c, t, rfl, rfl, h_c⟩

/-- A part between two characters of a text. -/
theorem sliceRange_some {t s u s' u' : Text} {c : Char} (h_t : t = s ++ c :: u)
    (h_t' : t = s' ++ u') (h_order : byteLen s < byteLen s') :
    ∃ m, sliceRange t (byteLen (s ++ [c])) (byteLen s') = some m := by
  have h_prefixed : s ++ [c] <+: s' := by
    have h_s : s ++ [c] <+: t := ⟨u, by rw [h_t]; simp⟩
    have h_s' : s' <+: t := ⟨u', h_t'.symm⟩
    rcases Nat.le_total (s ++ [c]).length s'.length with h_le | h_le
    · exact List.prefix_of_prefix_length_le h_s h_s' h_le
    · obtain ⟨v, h_v⟩ := List.prefix_of_prefix_length_le h_s' h_s h_le
      rcases List.eq_nil_or_concat v with rfl | ⟨v, d, rfl⟩
      · rw [List.append_nil] at h_v
        exact h_v ▸ List.prefix_refl s'
      · -- the longer of the two would end in front of the shorter
        rw [List.concat_eq_append, ← List.append_assoc] at h_v
        obtain ⟨rfl, -⟩ := List.append_inj' h_v rfl
        rw [byteLen_append] at h_order
        omega
  obtain ⟨m, rfl⟩ := h_prefixed
  exact ⟨m, by rw [h_t']; exact sliceRange_append _ m u'⟩

/-- A slice that does not panic goes on with its value. -/
theorem checked_slice_total {α β : Type} {x : Option α} {a : α} (h_x : x = some a)
    {f : α → Checked β} (h_f : ∃ r, (f a).run = some r) :
    ∃ r, ((x : Checked α) >>= f).run = some r := by
  subst h_x
  exact h_f

/-- The braces are in order, or the document is refused. -/
theorem splitField_total (definitions selection : Text) : ∃ r, ExceptT.run
    (match findChar (· == '\x7b') selection, rfindChar (· == '\x7d') selection with
      | some opening, some close =>
        if close ≤ opening then throw .parseError
        else do
          let field ← (sliceRange selection (opening + 1) close : Option Text)
          pure (definitions, field)
      | _, _ => throw .parseError : Checked (Text × Text)) = some r := by
  cases h_open : findChar (· == '\x7b') selection with
  | none => exact ⟨_, rfl⟩
  | some opening =>
    cases h_close : rfindChar (· == '\x7d') selection with
    | none => exact ⟨_, rfl⟩
    | some close =>
      dsimp only
      split_ifs with h_order
      · exact ⟨_, rfl⟩
      · obtain ⟨s, c, u, h_s, rfl, h_c⟩ := findChar_some h_open
        obtain ⟨s', c', u', h_s', rfl, -⟩ := rfindChar_some h_close
        obtain rfl := beq_iff_eq.mp h_c
        obtain ⟨field, h_field⟩ := sliceRange_some h_s h_s' (Nat.lt_of_not_le h_order)
        rw [byteLen_append] at h_field
        exact checked_slice_total h_field ⟨_, rfl⟩

/-- **Splitting never panics.** -/
theorem splitDocument_total (document : Text) : ∃ r, (splitDocument document).run = some r := by
  unfold splitDocument
  dsimp only
  -- a document without the keyword is answered with an error
  cases stripPrefix "subscription".toList (trimStart document) with
  | none => exact ⟨_, rfl⟩
  | some afterKeyword =>
    dsimp only
    cases h_start : findChar (fun c => c == '(' || c == '\x7b') (trimStart afterKeyword) with
    -- neither a parenthesis nor a brace
    | none => exact ⟨_, rfl⟩
    | some start =>
      obtain ⟨header, c, t, h_text, rfl, -⟩ := findChar_some h_start
      have h_slice : sliceFrom (trimStart afterKeyword) (byteLen header) = some (c :: t) := by
        rw [h_text, sliceFrom_append]
      dsimp only
      refine checked_slice_total h_slice ?_
      split
      · -- variable definitions: the loop finds their end, if there is one
        next h_paren =>
        obtain ⟨rfl, -⟩ := List.cons.inj h_paren
        obtain ⟨found, h_found, h_inner⟩ :=
          matchingParenLoop_total [] ('(' :: t) (Nat.lt_succ_self _) 0
        refine checked_slice_total h_found ?_
        -- an unclosed parenthesis is an error as well
        cases found with
        | none => exact ⟨_, rfl⟩
        | some close =>
          obtain ⟨inner, after, h_t, rfl⟩ := h_inner close rfl
          cases inner with
          | nil => exact absurd (List.cons.inj h_t).1 (by decide)
          | cons d definitions =>
            obtain ⟨rfl, rfl⟩ := List.cons.inj h_t
            have h_inside : sliceRange ('(' :: (definitions ++ ')' :: after)) 1
                (byteLen ('(' :: definitions)) = some definitions :=
              sliceRange_append ['('] definitions _
            have h_after : sliceFrom ('(' :: (definitions ++ ')' :: after))
                (byteLen ('(' :: definitions) + 1) = some after := by
              have h_length : byteLen ('(' :: definitions) + 1 =
                  byteLen ('(' :: definitions ++ [')']) := (byteLen_append _ [')']).symm
              have h_all : '(' :: (definitions ++ ')' :: after) =
                  ('(' :: definitions ++ [')']) ++ after := by simp
              rw [h_length, h_all]
              exact sliceFrom_append _ _
            exact checked_slice_total h_inside (checked_slice_total h_after
              (splitField_total definitions (trimStart after)))
      · -- no variable definitions
        exact splitField_total [] (trimStart (c :: t))

/-- **`split_document` undoes rendering, and never panics.**

* A subscription with definitions: the operation name is any text without an
  opening bracket, the definitions are well-formed, the body is any text.
* A subscription without definitions.
* Any text at all: the function returns, with the parts or with an error. -/
theorem split_document_undoes_rendering :
    (∀ before afterKeyword name afterName definitions afterDefinitions body behind : Text,
      IsSpace before → IsSpace afterKeyword → Bracketless name → IsSpace afterName →
      WellParenthesised definitions → IsSpace afterDefinitions → IsSpace behind →
      (splitDocument (before ++ "subscription".toList ++ afterKeyword ++ name ++ afterName ++
        '(' :: definitions ++ ')' :: afterDefinitions ++ '\x7b' :: body ++ '\x7d' :: behind)).run =
          some (.ok (definitions, body))) ∧
    (∀ before afterKeyword name afterName body behind : Text,
      IsSpace before → IsSpace afterKeyword → Bracketless name → IsSpace afterName →
      IsSpace behind →
      (splitDocument (before ++ "subscription".toList ++ afterKeyword ++ name ++ afterName ++
        '\x7b' :: body ++ '\x7d' :: behind)).run = some (.ok ([], body))) ∧
    ∀ document : Text, ∃ result : Except ErrorKind (Text × Text),
      (splitDocument document).run = some result := by
  refine ⟨?_, ?_, splitDocument_total⟩
  · intro before afterKeyword name afterName definitions afterDefinitions body behind h_before
      h_keyword h_name h_after h_definitions h_space h_behind
    have h_header := (h_keyword.bracketless.append h_name).append h_after.bracketless
    have h_split := splitDocument_parenthesised h_before h_header h_space h_behind
      (matchingParen_cut h_definitions (afterDefinitions ++ '\x7b' :: (body ++ '\x7d' :: behind)))
    simp only [List.append_assoc, List.cons_append] at h_split ⊢
    exact h_split
  · intro before afterKeyword name afterName body behind h_before h_keyword h_name h_after h_behind
    have h_header := (h_keyword.bracketless.append h_name).append h_after.bracketless
    have h_split : (splitDocument _).run = some (.ok ([], body)) :=
      splitDocument_bare h_before h_header h_behind
    simp only [List.append_assoc, List.cons_append] at h_split ⊢
    exact h_split

end Blokli
