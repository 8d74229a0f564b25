import BlokliClient.Wire

/-!
# The text passes of the combined document

The hand-written passes over GraphQL text: splitting a rendered subscription
into its variable definitions and its root field, renaming its variables, and
aliasing its root field.

The source slices `&str` by byte offsets, and a slice that leaves the text or
cuts a character panics. The passes are therefore kept at byte offsets, and a
slice (`sliceFrom`, `sliceTo`, `sliceRange`) is an `Option` whose `none` is that
panic. `Checked` adds the errors the source returns. The scanning loops carry
fuel, and running out of it is `none` too, so whoever shows that a pass returns
shows that it neither panics nor loops.
-/

namespace Blokli

/-- A computation that may return an error, and may panic (`none`). -/
abbrev Checked (α : Type) := ExceptT ErrorKind Option α

/-- A computation that succeeds ran all its parts. -/
theorem checked_bind_ok {α β : Type} {x : Checked α} {f : α → Checked β} {b : β} :
    (x >>= f).run = some (.ok b) ↔ ∃ a, x.run = some (.ok a) ∧ (f a).run = some (.ok b) := by
  change (x.run.bind _) = _ ↔ _
  rw [Option.bind_eq_some_iff]
  constructor
  -- what failed or panicked has no result
  · rintro ⟨r, h_r, h⟩
    cases r with
    | error error => cases h
    | ok a => exact ⟨a, h_r, h⟩
  · rintro ⟨a, h_a, h⟩
    exact ⟨.ok a, h_a, h⟩

/-! ### Slices by byte offset -/

/-- `str::len`: the number of bytes of the UTF-8 encoding. -/
def byteLen : Text → ℕ
  | [] => 0
  | c :: t => c.utf8Size + byteLen t

/-- `&text[offset..]`. -/
def sliceFrom : Text → ℕ → Option Text
  -- offset zero is always a boundary
  | t, 0 => some t
  | [], _ + 1 => none
  -- an offset inside the character is none
  | c :: t, n + 1 => if c.utf8Size ≤ n + 1 then sliceFrom t (n + 1 - c.utf8Size) else none

/-- `&text[..offset]`. -/
def sliceTo : Text → ℕ → Option Text
  | _, 0 => some []
  | [], _ + 1 => none
  | c :: t, n + 1 =>
    if c.utf8Size ≤ n + 1 then (sliceTo t (n + 1 - c.utf8Size)).map (c :: ·) else none

/-- `&text[start..stop]`. -/
def sliceRange (t : Text) (start stop : ℕ) : Option Text :=
  (sliceTo t stop).bind (sliceFrom · start)

/-- `str::find` of a character: the byte offset of the first match. -/
def findChar (p : Char → Bool) : Text → Option ℕ
  | [] => none
  | c :: t => if p c then some 0 else (findChar p t).map (c.utf8Size + ·)

/-- `str::rfind` of a character: the byte offset of the last match. -/
def rfindChar (p : Char → Bool) : Text → Option ℕ
  | [] => none
  | c :: t =>
    -- a match further on is a later one
    match rfindChar p t with
    | some n => some (c.utf8Size + n)
    | none => if p c then some 0 else none

/-- `str::find` of a string. -/
def findText (pat : Text) : Text → Option ℕ
  | [] => if pat.isEmpty then some 0 else none
  | c :: t =>
    if pat.isPrefixOf (c :: t) then some 0 else (findText pat t).map (c.utf8Size + ·)

/-- `str::strip_prefix`. -/
def stripPrefix (pat t : Text) : Option Text :=
  if pat.isPrefixOf t then some (t.drop pat.length) else none

/-- `char::is_whitespace`: the Unicode property `White_Space`. -/
def isWhitespace (c : Char) : Bool :=
  let n := c.toNat
  (decide (9 ≤ n) && decide (n ≤ 13)) || n == 0x20 || n == 0x85 || n == 0xA0 || n == 0x1680 ||
    (decide (0x2000 ≤ n) && decide (n ≤ 0x200A)) || n == 0x2028 || n == 0x2029 || n == 0x202F ||
    n == 0x205F || n == 0x3000

def trimStart (t : Text) : Text := t.dropWhile isWhitespace

/-- The characters of a GraphQL name. -/
def isNameChar (c : Char) : Bool := c.isAlphanum || c == '_'

/-! ### String literals -/

def tripleQuote : Text := ['"', '"', '"']

/-- The loop over the candidates for the end of a block string. -/
def blockStringEnd (body : Text) : ℕ → ℕ → Option (Option ℕ)
  | 0, _ => none
  | fuel + 1, offset => do
    let tail ← sliceFrom body offset
    match findText tripleQuote tail with
    | none => some none
    -- a candidate at `stop`, counted from the start of the body
    | some found =>
      let stop := offset + found
      let before ← sliceTo body stop
      -- escaped: the search goes on behind it
      if before.getLast? = some '\\' then blockStringEnd body fuel (stop + 3)
      else some (some stop)

/-- The loop over the characters of a quoted string: the offset of the closing
quote. -/
def quotedEnd : Bool → ℕ → Text → Option ℕ
  | _, _, [] => none
  -- the character behind a backslash closes nothing
  | true, offset, c :: t => quotedEnd false (offset + c.utf8Size) t
  | false, offset, c :: t =>
    if c = '\\' then quotedEnd true (offset + c.utf8Size) t
    else if c = '"' then some offset
    else quotedEnd false (offset + c.utf8Size) t

/-- The byte length of the GraphQL string literal that `text` starts with, if it
starts with one. An unterminated literal extends to the end of `text`. -/
def stringLiteralLen (text : Text) : Option (Option ℕ) :=
  -- three quotes first, since one of them opens a quoted string as well
  match stripPrefix tripleQuote text with
  | some body => do
    match ← blockStringEnd body (body.length + 1) 0 with
    | some stop => some (some (3 + stop + 3))
    -- unterminated
    | none => some (some (byteLen text))
  | none =>
    match text with
    | '"' :: body =>
      match quotedEnd false 0 body with
      | some offset => some (some (1 + offset + 1))
      | none => some (some (byteLen text))
    | _ => some none

/-- At a block string. -/
theorem stringLiteralLen_block {text body : Text} (h : stripPrefix tripleQuote text = some body) :
    stringLiteralLen text = (blockStringEnd body (body.length + 1) 0).map fun stop =>
      some (stop.elim (byteLen text) fun stop => 3 + stop + 3) := by
  unfold stringLiteralLen
  rw [h]
  dsimp only
  cases blockStringEnd body (body.length + 1) 0 with
  | none => rfl
  | some stop => cases stop <;> rfl

/-- At a quoted string. -/
theorem stringLiteralLen_quoted {body : Text} (h : stripPrefix tripleQuote ('"' :: body) = none) :
    stringLiteralLen ('"' :: body) = some (some ((quotedEnd false 0 body).elim
      (byteLen ('"' :: body)) fun offset => 1 + offset + 1)) := by
  unfold stringLiteralLen
  rw [h]
  dsimp only
  split
  · next body' h_body =>
    obtain rfl := (List.cons.inj h_body).2
    cases quotedEnd false 0 body <;> rfl
  · next h_other => exact absurd rfl (h_other body)

/-! ### Parentheses -/

def matchingParenLoop (text : Text) : ℕ → ℕ → ℕ → Option (Option ℕ)
  | 0, _, _ => none
  | fuel + 1, depth, offset => do
    let tail ← sliceFrom text offset
    match tail with
    -- at the end without the closing parenthesis
    | [] => some none
    | c :: _ =>
      match ← stringLiteralLen tail with
      -- parentheses inside a literal do not count
      | some length => matchingParenLoop text fuel depth (offset + length)
      | none =>
        if c = '(' then matchingParenLoop text fuel (depth + 1) (offset + c.utf8Size)
        else if c = ')' then
          match depth with
          | 0 => some none
          -- this one closes the leading parenthesis
          | 1 => some (some offset)
          | d + 2 => matchingParenLoop text fuel (d + 1) (offset + c.utf8Size)
        else matchingParenLoop text fuel depth (offset + c.utf8Size)

/-- The byte offset of the parenthesis that closes the leading one in `text`. -/
def matchingParen (text : Text) : Option (Option ℕ) :=
  matchingParenLoop text (text.length + 1) 0 0

/-! ### Variables -/

def renameVariablesLoop (aliasName : Text) : ℕ → Text → Text → Option Text
  | 0, _, _ => none
  | fuel + 1, rest, renamed =>
    match rest with
    | [] => some renamed
    | c :: _ => do
      match ← stringLiteralLen rest with
      | some length =>
        let literal ← sliceTo rest length
        let rest ← sliceFrom rest length
        -- a literal is copied whole
        renameVariablesLoop aliasName fuel rest (renamed ++ literal)
      | none =>
        let rest ← sliceFrom rest c.utf8Size
        if c = '$' then
          -- the name extends to the first other character
          let nameLength := (findChar (fun next => !isNameChar next) rest).getD (byteLen rest)
          if 0 < nameLength then
            let name ← sliceTo rest nameLength
            let rest ← sliceFrom rest nameLength
            renameVariablesLoop aliasName fuel rest (renamed ++ [c] ++ aliasName ++ ['_'] ++ name)
          -- a lone `$`
          else renameVariablesLoop aliasName fuel rest (renamed ++ [c])
        else renameVariablesLoop aliasName fuel rest (renamed ++ [c])

/-- Prefixes every variable reference in `text`; string literals are copied
unchanged. -/
def renameVariables (text aliasName : Text) : Option Text :=
  renameVariablesLoop aliasName (text.length + 1) text []

/-! ### The root field -/

/-- Splits a single-field subscription document into its variable definitions
and its root field. -/
def splitDocument (document : Text) : Checked (Text × Text) := do
  let document := trimStart document
  match stripPrefix "subscription".toList document with
  | none => throw .parseError
  | some afterKeyword =>
    let afterKeyword := trimStart afterKeyword
    match findChar (fun c => c == '(' || c == '{') afterKeyword with
    -- neither variables nor a selection
    | none => throw .parseError
    | some start =>
      let afterName ← (sliceFrom afterKeyword start : Option Text)
      let (definitions, selection) ←
        match afterName with
        | '(' :: _ => do
          match ← (matchingParen afterName : Option (Option ℕ)) with
          -- the parenthesis is never closed
          | none => throw .parseError
          | some close =>
            let definitions ← (sliceRange afterName 1 close : Option Text)
            let selection ← (sliceFrom afterName (close + 1) : Option Text)
            pure (definitions, selection)
        | _ => (pure ([], afterName) : Checked (Text × Text))
      let selection := trimStart selection
      -- the braces of the selection: the first one and the last one
      match findChar (· == '{') selection, rfindChar (· == '}') selection with
      | some opening, some close =>
        if close ≤ opening then throw .parseError
        else
          let field ← (sliceRange selection (opening + 1) close : Option Text)
          pure (definitions, field)
      | _, _ => throw .parseError

/-- The name of the root field of a rendered selection. -/
def rootFieldName (field : Text) : Checked Text :=
  match (trimStart field).takeWhile isNameChar with
  | [] => throw .parseError
  | name => pure name

/-- Aliases the root field of a rendered selection so that its payload can be
routed back to the slot. -/
def aliasRootField (field aliasName : Text) : Checked Text :=
  -- a field that is blank has no name to alias
  match findChar (fun c => !isWhitespace c) field with
  | none => throw .parseError
  | some start => do
    let before ← (sliceTo field start : Option Text)
    let after ← (sliceFrom field start : Option Text)
    pure (before ++ aliasName ++ ": ".toList ++ after)

-- a `$` inside a string value is not a variable, one outside is
example : renameVariables "f(a: $a, b: \"$b \\\" $c\", d: $f)".toList "s1".toList =
    some "f(a: $s1_a, b: \"$b \\\" $c\", d: $s1_f)".toList := by decide +kernel

example : (splitDocument "subscription S($a: Int) \x7b f(a: $a) \x7d".toList).run =
    some (.ok ("$a: Int".toList, " f(a: $a) ".toList)) := by decide +kernel

end Blokli
