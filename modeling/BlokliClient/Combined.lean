import Mathlib.Data.List.Nodup
import BlokliClient.Splitting
import BlokliClient.Connection

/-!
# The combined document means what its parts mean

`build_connection` turns the documents of many slots into one. `Operation` is a
subscription as it is rendered, `Operation.Renders` says which texts render it,
and the theorem reads the combined text back, lexeme by lexeme: it consists of
the definitions and the root fields of the slots, in which nothing changed but
the label of the field and the names of the variables.

* `splitDocument_renders`: splitting a rendered document gives its definitions
  and its root field.
* `addSlot_renders`: a turn of the loop adds the renamed definitions, the labelled
  root field, and the renamed variables of one slot.
* `variableName_inj`: the names of one slot are not those of another, so nothing
  is overwritten (`s1_x` and `s11_x` differ in the character behind `s1`).
* `Reads.ended`: a root field is followed by a lexeme of its own before the next
  one starts, the line break that a rendered selection ends with. So the fields
  can be put next to each other.
-/

namespace Blokli

/-! ### Rendered subscriptions -/

/-- What follows the name of a root field: white space, its arguments and its
selection set. -/
inductive FieldTail : List Lexeme → Prop
  | nil : FieldTail []
  | space {c : Char} {ls : List Lexeme} (is_space : isWhitespace c = true) (rest : FieldTail ls) :
      FieldTail (.other c :: ls)
  | group {opening closing : Char} {inner ls : List Lexeme} (pair : (opening, closing) ∈ brackets)
      (content : Balanced inner) (rest : FieldTail ls) :
      FieldTail (.other opening :: inner ++ .other closing :: ls)

/-- A subscription with one root field. No definitions are no parentheses. -/
structure Operation where
  name : Text
  definitions : List Lexeme
  /-- The white space in front of the root field. -/
  indent : Text
  field : Text
  tail : List Lexeme

namespace Operation

/-- What stands between the braces of the document. -/
def selection (op : Operation) : List Lexeme :=
  op.indent.map .other ++ .name op.field :: op.tail

def parenthesised (ls : List Lexeme) : List Lexeme :=
  match ls with
  | [] => []
  | ls => .other '(' :: ls ++ [.other ')']

/-- **The shape of rendered documents.** The root field has no alias, every
bracket is closed, and every selection stands on lines of its own: the last one,
too, ends before the closing brace of the document. -/
structure Renders (op : Operation) (document : Text) : Prop where
  name : IsName op.name
  balanced : Balanced op.definitions
  definitions_read : Reads (textOf op.definitions) op.definitions []
  indent : IsSpace op.indent
  field_tail : FieldTail op.tail
  ended : ∃ c, op.tail.getLast? = some (.other c)
  selection_read : Reads (textOf op.selection) op.selection []
  layout : ∃ before afterKeyword afterName afterDefinitions behind : Text,
    IsSpace before ∧ IsSpace afterKeyword ∧ IsSpace afterName ∧ IsSpace afterDefinitions ∧
    IsSpace behind ∧
    document = before ++ ("subscription".toList ++ (afterKeyword ++ (op.name ++ (afterName ++
      (textOf (parenthesised op.definitions) ++ (afterDefinitions ++ '\x7b' ::
        (textOf op.selection ++ '\x7d' :: behind)))))))

end Operation

/-! ### Splitting a document -/

/-- The characters of names, by their codes. -/
theorem isNameChar_code {c : Char} (h : isNameChar c = true) :
    c.toNat = 95 ∨ 48 ≤ c.toNat ∧ c.toNat ≤ 57 ∨ 65 ≤ c.toNat ∧ c.toNat ≤ 90 ∨
      97 ≤ c.toNat ∧ c.toNat ≤ 122 := by
  unfold isNameChar at h
  rcases Bool.or_eq_true_iff.mp h with h | h
  · change (decide (c.val ≥ 65 ∧ c.val ≤ 90) ||
      decide (c.val ≥ 97) && decide (c.val ≤ 122) ||
        decide (c.val ≥ 48) && decide (c.val ≤ 57)) = true at h
    simp only [Bool.or_eq_true, Bool.and_eq_true, decide_eq_true_eq, ge_iff_le,
      UInt32.le_iff_toNat_le] at h
    change ((65 ≤ c.toNat ∧ c.toNat ≤ 90) ∨ (97 ≤ c.toNat ∧ c.toNat ≤ 122)) ∨
      (48 ≤ c.toNat ∧ c.toNat ≤ 57) at h
    omega
  · obtain rfl := beq_iff_eq.mp h
    exact Or.inl rfl

/-- A character of a name is no white space. -/
theorem isWhitespace_of_isNameChar {c : Char} (h : isNameChar c = true) :
    isWhitespace c = false := by
  have h_code := isNameChar_code h
  simp only [isWhitespace, Bool.or_eq_false_iff, Bool.and_eq_false_iff, decide_eq_false_iff_not,
    beq_eq_false_iff_ne, ne_eq]
  omega

/-- There is no bracket in a name. -/
theorem IsName.bracketless {name : Text} (h : IsName name) : Bracketless name := by
  intro c h_c
  have h_char := h.2 c h_c
  constructor
  · rintro rfl
    exact absurd h_char (by decide)
  · rintro rfl
    exact absurd h_char (by decide)

/-- **Splitting a rendered document.** -/
theorem splitDocument_renders {op : Operation} {document : Text} (h : op.Renders document) :
    (splitDocument document).run = some (.ok (textOf op.definitions, textOf op.selection)) := by
  -- the text is taken apart at the opening bracket of the selection
  obtain ⟨before, afterKeyword, afterName, afterDefinitions, behind, h_before, h_keyword, h_after,
    h_definitions, h_behind, rfl⟩ := h.layout
  have h_header := (h_keyword.bracketless.append h.name.bracketless).append h_after.bracketless
  -- without definitions there are no parentheses
  cases h_ls : op.definitions with
  | nil =>
    have h_split : (splitDocument _).run = some (.ok ([], textOf op.selection)) :=
      splitDocument_bare h_before (h_header.append h_definitions.bracketless) h_behind
    simp only [List.append_assoc] at h_split
    exact h_split
  -- with definitions the scan stops at their closing parenthesis
  | cons l ls =>
    let selection : Text := '\x7b' :: (textOf op.selection ++ '\x7d' :: behind)
    have h_read : Reads (textOf op.definitions ++ ')' :: (afterDefinitions ++ selection))
        op.definitions (')' :: (afterDefinitions ++ selection)) := by
      refine h.definitions_read.replace fun c h_c => Or.inr ?_
      obtain rfl : ')' = c := Option.some.inj h_c
      exact ⟨rfl, by decide⟩
    have h_split := splitDocument_parenthesised h_before h_header h_definitions h_behind
      (matchingParen_reads h.balanced h_read)
    have h_parens : textOf (Operation.parenthesised (l :: ls)) =
        '(' :: textOf (l :: ls) ++ [')'] := by
      simp [Operation.parenthesised, Lexeme.text]
    rw [h_ls] at h_split
    rw [h_parens]
    simp only [List.append_assoc, List.cons_append, List.nil_append] at h_split ⊢
    exact h_split

/-! ### One slot -/

/-- The aliases of slots are names. -/
theorem aliasOfSlot_name (id : SlotId) : ∀ c ∈ aliasOfSlot id, isNameChar c = true := by
  intro c h_c
  rcases List.mem_cons.mp h_c with rfl | h_c
  · rfl
  · have h_digit : c.isDigit = true := Nat.isDigit_of_mem_toDigits (by decide) (by decide) h_c
    unfold isNameChar Char.isAlphanum
    rw [h_digit, Bool.or_true]
    rfl

/-- The name that a variable of slot `id` gets. -/
def variableName (id : SlotId) (name : Text) : Text := aliasOfSlot id ++ ['_'] ++ name

/-- **Variables of different slots have different names**, and so have different
variables of one slot. -/
theorem variableName_inj {id id' : SlotId} {name name' : Text}
    (h : variableName id name = variableName id' name') : id = id' ∧ name = name' := by
  have h_split : ∀ (id : SlotId) (name : Text),
      (variableName id name).takeWhile (· != '_') = aliasOfSlot id := by
    intro id name
    have h_alias : ∀ c ∈ aliasOfSlot id, (c != '_') = true := by
      intro c h_c
      rw [bne_iff_ne]
      rintro rfl
      rcases List.mem_cons.mp h_c with h_c | h_c
      · cases h_c
      · exact Nat.underscore_not_in_toDigits h_c
    unfold variableName
    rw [List.append_assoc, List.takeWhile_append_of_pos h_alias]
    exact List.append_nil _
  have h_id : id = id' := aliasOfSlot_inj (by rw [← h_split id name, h, h_split])
  subst h_id
  exact ⟨rfl, List.append_cancel_left h⟩

namespace Operation

variable (op : Operation) (id : SlotId)

/-- The definitions of the operation, as a slot. -/
def renamed : List Lexeme := op.definitions.map (.prefixed (aliasOfSlot id))

/-- The root field of the operation, as a slot. -/
def labelled : List Lexeme :=
  op.indent.map .other ++ .name (aliasOfSlot id) :: .other ':' :: .other ' ' ::
    .name op.field :: op.tail.map (.prefixed (aliasOfSlot id))

/-- The definitions, if there are any. -/
def definitionLists : List (List Lexeme) :=
  if op.definitions.isEmpty then [] else [op.renamed id]

end Operation

/-- A text whose characters are all `other` lexemes is spelled as it is. -/
theorem textOf_map_other (t : Text) : textOf (t.map .other) = t := by
  induction t with
  | nil => rfl
  | cons c t ih => rw [List.map_cons, textOf_cons, ih]; rfl

/-- Such a text has no names, so renaming leaves it alone. -/
theorem map_prefixed_other (aliasName t : Text) :
    (t.map .other).map (Lexeme.prefixed aliasName) = t.map .other := by
  rw [List.map_map]
  rfl

/-- The renamed selection of an operation. -/
theorem selection_prefixed (op : Operation) (aliasName : Text) :
    op.selection.map (Lexeme.prefixed aliasName) =
      op.indent.map .other ++ .name op.field :: op.tail.map (.prefixed aliasName) := by
  unfold Operation.selection
  rw [List.map_append, map_prefixed_other]
  rfl

/-- The root field of a rendered operation, behind its indentation. -/
theorem Operation.Renders.root_read {op : Operation} {document : Text} (h : op.Renders document)
    (id : SlotId) :
    Reads (op.field ++ textOf (op.tail.map (.prefixed (aliasOfSlot id))))
      (.name op.field :: op.tail.map (.prefixed (aliasOfSlot id))) [] ∧
    IsName op.field ∧ Stops (textOf (op.tail.map (.prefixed (aliasOfSlot id)))) := by
  have h_read := h.selection_read.prefixed (aliasOfSlot_name id)
  rw [selection_prefixed] at h_read
  obtain ⟨m, -, h_root⟩ := h_read.split
  have h_m := h_root.text_eq
  rw [List.append_nil, textOf_cons] at h_m
  subst h_m
  refine ⟨h_root, ?_⟩
  generalize h_text : textOf (op.tail.map (.prefixed (aliasOfSlot id))) = text at h_root ⊢
  generalize h_all : Lexeme.text (.name op.field) ++ text = all at h_root
  cases h_root with
  | name h_name h_stops _ =>
    obtain rfl := List.append_cancel_left h_all
    exact ⟨h_name, h_stops⟩

/-- No lexemes, no text. -/
theorem textOf_eq_nil {ls : List Lexeme} {rest : Text} (h : Reads (textOf ls) ls rest)
    (h_nil : textOf ls = []) : ls = [] := by
  cases ls with
  | nil => rfl
  | cons l ls =>
    have h_kind := h.kind_eq
    rw [h_nil] at h_kind
    cases h_kind

variable {V : Type}

/-- The definitions of one more slot. -/
theorem addDefinitions_renders {op : Operation} {document : Text} (h : op.Renders document)
    (definitions : List Text) (id : SlotId) :
    (addDefinitions definitions (textOf op.definitions) (aliasOfSlot id)).run =
      some (.ok (definitions ++ (op.definitionLists id).map textOf)) := by
  unfold addDefinitions Operation.definitionLists
  have h_rename := renameVariables_reads (aliasOfSlot id) h.definitions_read
  cases h_ls : op.definitions with
  | nil =>
    rw [textOf_nil, List.isEmpty_nil, if_pos rfl, List.map_nil, List.append_nil]
    rfl
  | cons l ls =>
    rw [← h_ls]
    have h_empty : ¬op.definitions.isEmpty = true := by rw [h_ls]; exact Bool.false_ne_true
    rw [if_neg h_empty]
    split
    · next h_nil =>
      rw [textOf_eq_nil h.definitions_read h_nil] at h_ls
      cases h_ls
    · exact checked_bind_ok.mpr ⟨_, congrArg (Option.map Except.ok) h_rename, rfl⟩

/-- **One turn of the loop.** -/
theorem addSlot_renders {op : Operation} {spec : SubscriptionSpec V}
    (h : op.Renders spec.document) (parts : Parts V) (id : SlotId) :
    (addSlot parts id spec).run = some (.ok {
      definitions := parts.definitions ++ (op.definitionLists id).map textOf
      fields := parts.fields ++ [textOf (op.labelled id)]
      queryVariables := (spec.queryVariables.asObject.getD []).foldl
        (fun m p => insertMember (variableName id p.1) p.2 m) parts.queryVariables
      targets := insertSorted (aliasOfSlot id)
        { id := id, field := op.field, decode := spec.decode } parts.targets }) := by
  obtain ⟨h_root, h_field, h_stops⟩ := h.root_read id
  let tail : Text := textOf (op.tail.map (.prefixed (aliasOfSlot id)))
  -- the selection with its variables renamed, its white space in front
  have h_rename : renameVariables (textOf op.selection) (aliasOfSlot id) =
      some (op.indent ++ (op.field ++ tail)) := by
    rw [renameVariables_reads (aliasOfSlot id) h.selection_read, selection_prefixed, textOf_append,
      textOf_map_other, textOf_cons]
    rfl
  -- a name starts with a visible character, so trimming stops there
  obtain ⟨c, name, h_c⟩ := List.exists_cons_of_ne_nil h_field.1
  have h_visible : isWhitespace c = false := by
    refine isWhitespace_of_isNameChar (h_field.2 c ?_)
    rw [h_c]
    exact List.mem_cons_self
  -- the root field is read up to the first character of `tail`
  have h_name : (rootFieldName (op.indent ++ (op.field ++ tail))).run = some (.ok op.field) := by
    have h_trim : trimStart (op.indent ++ (op.field ++ tail)) = op.field ++ tail := by
      refine trimStart_append h.indent fun d h_d => ?_
      rw [h_c] at h_d
      obtain rfl : c = d := Option.some.inj h_d
      exact h_visible
    unfold rootFieldName
    rw [h_trim, h_field.takeWhile h_stops]
    split
    · next h_nil => exact absurd h_nil h_field.1
    · rfl
  -- the alias goes between the white space and the field
  have h_alias : (aliasRootField (op.indent ++ (op.field ++ tail)) (aliasOfSlot id)).run =
      some (.ok (textOf (op.labelled id))) := by
    have h_find : findChar (fun c => !isWhitespace c) (op.indent ++ (op.field ++ tail)) =
        some (byteLen op.indent) := by
      rw [h_c]
      refine findChar_append (fun d h_d => ?_) c (name ++ tail) ?_
      · rw [h.indent d h_d]
        rfl
      · rw [h_visible]
        rfl
    unfold aliasRootField
    rw [h_find]
    refine checked_bind_ok.mpr ⟨_, congrArg (Option.map Except.ok) (sliceTo_append _ _), ?_⟩
    refine checked_bind_ok.mpr ⟨_, congrArg (Option.map Except.ok) (sliceFrom_append _ _), ?_⟩
    refine congrArg (some ∘ Except.ok) ?_
    unfold Operation.labelled
    rw [textOf_append, textOf_map_other]
    simp [Lexeme.text, tail]
  unfold addSlot
  -- each step of `addSlot` is one of the readings above
  refine checked_bind_ok.mpr ⟨_, splitDocument_renders h, ?_⟩
  refine checked_bind_ok.mpr ⟨_, addDefinitions_renders h parts.definitions id, ?_⟩
  refine checked_bind_ok.mpr ⟨_, congrArg (Option.map Except.ok) h_rename, ?_⟩
  refine checked_bind_ok.mpr ⟨_, h_name, ?_⟩
  exact checked_bind_ok.mpr ⟨_, h_alias, rfl⟩

/-! ### All slots -/

/-- A new member goes to the end. -/
theorem insertMember_fresh {W : Type} {k : Text} (w : W) {m : List (Text × W)}
    (h : k ∉ m.map Prod.fst) : insertMember k w m = m ++ [(k, w)] := by
  induction m with
  | nil => rfl
  | cons p m ih =>
    obtain ⟨k', w'⟩ := p
    rw [List.map_cons, List.mem_cons, not_or] at h
    rw [insertMember, if_neg fun h_eq => h.1 h_eq.symm, ih h.2]
    rfl

/-- The variables of one more slot. -/
theorem foldl_insertMember {members m : List (Text × Json)} {id : SlotId}
    (h_members : (members.map Prod.fst).Nodup)
    (h_fresh : ∀ name, variableName id name ∉ m.map Prod.fst ∨ name ∉ members.map Prod.fst) :
    members.foldl (fun m p => insertMember (variableName id p.1) p.2 m) m =
      m ++ members.map fun p => (variableName id p.1, p.2) := by
  induction members generalizing m with
  | nil => exact (List.append_nil m).symm
  -- the first member is new, and so are the others behind it
  | cons p members ih =>
    obtain ⟨h_p, h_members⟩ := List.nodup_cons.mp h_members
    have h_new : variableName id p.1 ∉ m.map Prod.fst :=
      (h_fresh p.1).resolve_right fun h => h (List.mem_map_of_mem List.mem_cons_self)
    rw [List.foldl_cons, insertMember_fresh p.2 h_new, ih h_members fun name => ?_,
      List.append_assoc]
    · rfl
    · rcases h_fresh name with h | h
      · by_cases h_name : name = p.1
        · exact Or.inr (by rw [h_name]; exact h_p)
        · refine Or.inl fun h_mem => ?_
          rw [List.map_append] at h_mem
          rcases List.mem_append.mp h_mem with h_mem | h_mem
          · exact h h_mem
          · exact h_name (variableName_inj (List.mem_singleton.mp h_mem)).2
      · exact Or.inr fun h_mem => h (List.mem_cons_of_mem _ h_mem)

/-- The slots of a connection, with the operations they render and the variables
these have. -/
structure Rendered (slots : Snapshot V) (ops : SlotId → Operation)
    (members : SlotId → List (Text × Json)) : Prop where
  renders : ∀ p ∈ slots, (ops p.1).Renders p.2.spec.document
  queryVariables : ∀ p ∈ slots, p.2.spec.queryVariables = .object (members p.1)
  members_nodup : ∀ p ∈ slots, ((members p.1).map Prod.fst).Nodup

section Slots

variable {slots : Snapshot V} {ops : SlotId → Operation} {members : SlotId → List (Text × Json)}

/-- **The loop over the slots.** -/
theorem addSlots_rendered (h : Rendered slots ops members) (h_ids : (slots.map Prod.fst).Nodup)
    (parts : Parts V) (h_targets : ∀ p ∈ slots, aliasOfSlot p.1 ∉ parts.targets.map Prod.fst)
    (h_variables : ∀ p ∈ slots, ∀ name,
      variableName p.1 name ∉ parts.queryVariables.map Prod.fst) :
    ∃ parts', (addSlots parts slots).run = some (.ok parts') ∧
      parts'.definitions = parts.definitions ++
        (slots.flatMap fun p => (ops p.1).definitionLists p.1).map textOf ∧
      parts'.fields = parts.fields ++ slots.map (fun p => textOf ((ops p.1).labelled p.1)) ∧
      parts'.queryVariables = parts.queryVariables ++
        slots.flatMap (fun p => (members p.1).map fun m => (variableName p.1 m.1, m.2)) ∧
      parts'.targets.Perm ((slots.map fun p => (aliasOfSlot p.1,
        { id := p.1, field := (ops p.1).field, decode := p.2.spec.decode })) ++ parts.targets) := by
  induction slots generalizing parts with
  | nil => exact ⟨parts, rfl, (List.append_nil _).symm, (List.append_nil _).symm,
      (List.append_nil _).symm, List.Perm.refl _⟩
  | cons p slots ih =>
    obtain ⟨id, entry⟩ := p
    obtain ⟨h_id, h_ids⟩ := List.nodup_cons.mp h_ids
    have h_first := addSlot_renders (h.renders _ List.mem_cons_self) parts id
    -- the first slot is added
    have h_members : entry.spec.queryVariables.asObject.getD [] = members id := by
      rw [h.queryVariables _ List.mem_cons_self]
      rfl
    have h_fold := foldl_insertMember (h.members_nodup _ List.mem_cons_self)
      fun name => Or.inl (h_variables _ List.mem_cons_self name)
    dsimp only at h_fold
    rw [h_members, h_fold] at h_first
    generalize h_next : Parts.mk _ _ _ _ = next at h_first
    -- the others, to what it left
    have h_rest : Rendered slots ops members :=
      ⟨fun p hp => h.renders p (List.mem_cons_of_mem _ hp),
        fun p hp => h.queryVariables p (List.mem_cons_of_mem _ hp),
        fun p hp => h.members_nodup p (List.mem_cons_of_mem _ hp)⟩
    have h_perm := insertSorted_perm
      ({ id := id, field := (ops id).field, decode := entry.spec.decode } : SlotTarget V)
      (h_targets _ List.mem_cons_self)
    have h_other : ∀ p ∈ slots, p.1 ≠ id := fun p hp h_eq =>
      h_id (List.mem_map.mpr ⟨p, hp, h_eq⟩)
    -- the alias of the slot is not that of another one, nor are its variables
    have h_aliases : ∀ p ∈ slots, aliasOfSlot p.1 ∉ next.targets.map Prod.fst := by
      subst h_next
      intro p hp h_mem
      rw [(h_perm.map Prod.fst).mem_iff] at h_mem
      rcases List.mem_cons.mp h_mem with h_eq | h_mem
      · exact h_other p hp (aliasOfSlot_inj h_eq)
      · exact h_targets p (List.mem_cons_of_mem _ hp) h_mem
    have h_names : ∀ p ∈ slots, ∀ name,
        variableName p.1 name ∉ next.queryVariables.map Prod.fst := by
      subst h_next
      intro p hp name h_mem
      rw [List.map_append] at h_mem
      rcases List.mem_append.mp h_mem with h_mem | h_mem
      · exact h_variables p (List.mem_cons_of_mem _ hp) name h_mem
      · rw [List.map_map] at h_mem
        obtain ⟨m, -, h_eq⟩ := List.mem_map.mp h_mem
        exact h_other p hp (variableName_inj h_eq).1.symm
    obtain ⟨parts', h_run, h_definitions, h_fields, h_queryVariables, h_targets'⟩ :=
      ih h_rest h_ids next h_aliases h_names
    subst h_next
    refine ⟨parts', checked_bind_ok.mpr ⟨_, h_first, h_run⟩, ?_, ?_, ?_, ?_⟩
    · rw [h_definitions, List.flatMap_cons, List.map_append, List.append_assoc]
    · rw [h_fields, List.append_assoc]
      rfl
    · rw [h_queryVariables, List.flatMap_cons, List.append_assoc]
    · exact h_targets'.trans ((h_perm.append_left _).trans List.perm_middle)

end Slots

/-! ### Reading the combined document -/

/-- Lists of definitions, behind one another. -/
def joinLists : List (List Lexeme) → List Lexeme
  | [] => []
  | [ls] => ls
  | ls :: lists => ls ++ .other ',' :: .other ' ' :: joinLists lists

/-- A subscription document with the given definitions and root fields. -/
def documentLexemes (definitions fields : List Lexeme) : List Lexeme :=
  .name "subscription".toList :: .other ' ' :: .name combinedOperationName ::
    (Operation.parenthesised definitions ++
      .other ' ' :: .other '\x7b' :: (fields ++ [.other '\x7d']))

/-- Joined lists of lexemes spell the joined texts. -/
theorem textOf_joinLists (lists : List (List Lexeme)) :
    textOf (joinLists lists) = joinComma (lists.map textOf) := by
  induction lists with
  | nil => rfl
  | cons ls lists ih =>
    cases lists with
    | nil => rfl
    | cons ls' lists =>
      change textOf (ls ++ .other ',' :: .other ' ' :: joinLists (ls' :: lists)) =
        textOf ls ++ ", ".toList ++ joinComma (List.map textOf (ls' :: lists))
      rw [textOf_append, textOf_cons, textOf_cons, ih, List.append_assoc]
      rfl

/-- No lexeme is about to go on in front of a comma or a parenthesis. -/
theorem Reads.before_punctuator {t : Text} {ls : List Lexeme} (h : Reads t ls []) {c : Char}
    (h_c : isNameChar c = false ∧ c ≠ '"') (rest : Text) :
    Reads (textOf ls ++ c :: rest) ls (c :: rest) := by
  refine h.replace fun d h_d => Or.inr ?_
  obtain rfl : c = d := Option.some.inj h_d
  exact h_c

/-- They are read back one by one, up to the bracket that closes them. -/
theorem joinLists_reads {lists : List (List Lexeme)}
    (h : ∀ ls ∈ lists, Reads (textOf ls) ls []) (rest : Text) :
    Reads (textOf (joinLists lists) ++ ')' :: rest) (joinLists lists) (')' :: rest) := by
  induction lists with
  | nil => exact .done
  | cons ls lists ih =>
    obtain ⟨h_ls, h_lists⟩ := List.forall_mem_cons.mp h
    cases lists with
    | nil => exact h_ls.before_punctuator ⟨rfl, by decide⟩ rest
    | cons ls' lists =>
      have h_rest := ih h_lists
      change Reads (textOf (ls ++ .other ',' :: .other ' ' :: joinLists (ls' :: lists)) ++ _)
        (ls ++ .other ',' :: .other ' ' :: joinLists (ls' :: lists)) _
      rw [textOf_append, List.append_assoc]
      refine (h_ls.before_punctuator ⟨rfl, by decide⟩ _).append ?_
      exact .other (by decide) (.other (by decide) h_rest)

/-- White space is read as `other`. -/
theorem isOther_of_isWhitespace {c : Char} (h : isWhitespace c = true) : IsOther c := by
  refine ⟨?_, ?_, ?_, ?_⟩
  · by_contra h_name
    rw [isWhitespace_of_isNameChar (Bool.not_eq_false _ ▸ h_name)] at h
    cases h
  all_goals
    rintro rfl
    exact absurd h (by decide)

/-- So is indentation. -/
theorem indent_reads {indent : Text} (h : IsSpace indent) (rest : Text) :
    Reads (indent ++ rest) (indent.map .other) rest := by
  induction indent with
  | nil => exact .done
  | cons c indent ih =>
    obtain ⟨h_c, h_indent⟩ := List.forall_mem_cons.mp h
    exact .other (isOther_of_isWhitespace h_c) (ih h_indent)

/-- The last lexeme of the root field stays the last one. -/
theorem getLast?_prefixed {ls : List Lexeme} {c : Char} (h : ls.getLast? = some (Lexeme.other c))
    (aliasName : Text) : (ls.map (Lexeme.prefixed aliasName)).getLast? = some (Lexeme.other c) := by
  rw [List.getLast?_map, h]
  rfl

/-- **A labelled root field** reads as such, whatever follows it. -/
theorem labelled_reads {op : Operation} {document : Text} (h : op.Renders document) (id : SlotId)
    (rest : Text) : Reads (textOf (op.labelled id) ++ rest) (op.labelled id) rest := by
  obtain ⟨h_root, -, -⟩ := h.root_read id
  obtain ⟨c, h_c⟩ := h.ended
  have h_last : (Lexeme.name op.field :: op.tail.map (.prefixed (aliasOfSlot id))).getLast? =
      some (.other c) := by
    rw [List.getLast?_cons, getLast?_prefixed h_c]
    rfl
  have h_field := h_root.ended h_last rest
  have h_name : IsName (aliasOfSlot id) := ⟨List.cons_ne_nil _ _, aliasOfSlot_name id⟩
  have h_stops : ∀ t, Stops (':' :: t) := fun t d h_d => by
    obtain rfl : ':' = d := Option.some.inj h_d
    rfl
  unfold Operation.labelled
  rw [textOf_append, textOf_map_other, List.append_assoc]
  refine (indent_reads h.indent _).append ?_
  rw [textOf_cons, List.append_assoc]
  exact .name h_name (h_stops _) (.other (by decide) (.other (by decide) h_field))

section Slots

variable {slots : Snapshot V} {ops : SlotId → Operation} {members : SlotId → List (Text × Json)}

/-- Each renamed definition is read back. -/
theorem definitionLists_reads {op : Operation} {document : Text} (h : op.Renders document)
    (id : SlotId) : ∀ ls ∈ op.definitionLists id, Reads (textOf ls) ls [] := by
  intro ls h_ls
  unfold Operation.definitionLists at h_ls
  split at h_ls
  · exact absurd h_ls List.not_mem_nil
  · obtain rfl := List.mem_singleton.mp h_ls
    have h_read := h.definitions_read.prefixed (aliasOfSlot_name id)
    rw [List.append_nil] at h_read
    exact h_read

/-- No definition is empty. -/
theorem definitionLists_ne_nil {op : Operation} {id : SlotId} {ls : List Lexeme}
    (h : ls ∈ op.definitionLists id) : ls ≠ [] := by
  unfold Operation.definitionLists at h
  split at h
  · exact absurd h List.not_mem_nil
  · next h_some =>
    obtain rfl := List.mem_singleton.mp h
    unfold Operation.renamed
    rw [ne_eq, List.map_eq_nil_iff]
    rintro h_nil
    exact h_some (List.isEmpty_iff.mpr h_nil)

/-- So a list that starts with one is not empty either. -/
theorem joinLists_ne_nil {ls : List Lexeme} (h : ls ≠ []) (lists : List (List Lexeme)) :
    joinLists (ls :: lists) ≠ [] := by
  cases lists with
  | nil => exact h
  | cons ls' lists => exact List.append_ne_nil_of_left_ne_nil h _

/-- The labelled fields of all slots are read back, one after the other. -/
theorem fields_reads (h : ∀ p ∈ slots, (ops p.1).Renders p.2.spec.document) (rest : Text) :
    Reads ((slots.map fun p => textOf ((ops p.1).labelled p.1)).flatten ++ rest)
      (slots.flatMap fun p => (ops p.1).labelled p.1) rest := by
  induction slots with
  | nil => exact .done
  | cons p slots ih =>
    obtain ⟨h_p, h_slots⟩ := List.forall_mem_cons.mp h
    rw [List.map_cons, List.flatten_cons, List.append_assoc, List.flatMap_cons]
    exact (labelled_reads h_p p.1 _).append (ih h_slots)

/-- **The combined text** reads as the definitions and the fields of its parts. -/
theorem document_reads (h : ∀ p ∈ slots, (ops p.1).Renders p.2.spec.document) {parts : Parts V}
    (h_definitions : parts.definitions =
      (slots.flatMap fun p => (ops p.1).definitionLists p.1).map textOf)
    (h_fields : parts.fields = slots.map fun p => textOf ((ops p.1).labelled p.1)) :
    Reads parts.document (documentLexemes
      (joinLists (slots.flatMap fun p => (ops p.1).definitionLists p.1))
      (slots.flatMap fun p => (ops p.1).labelled p.1)) [] := by
  -- the fields, between the braces of the selection
  have h_selection : Reads (" \x7b".toList ++ parts.fields.flatten ++ "\x7d".toList)
      (.other ' ' :: .other '\x7b' ::
        ((slots.flatMap fun p => (ops p.1).labelled p.1) ++ [.other '\x7d'])) [] := by
    rw [List.append_assoc, h_fields]
    have h_close : Reads "\x7d".toList [.other '\x7d'] [] := .other (by decide) .done
    exact .other (by decide) (.other (by decide) ((fields_reads h _).append h_close))
  -- the keyword and the name of the operation, in front of anything that ends a name
  have h_head : ∀ {t : Text} {ls : List Lexeme} {c : Char}, isNameChar c = false →
      Reads (c :: t) ls [] → Reads ("subscription ".toList ++ combinedOperationName ++ c :: t)
        (.name "subscription".toList :: .other ' ' :: .name combinedOperationName :: ls) [] := by
    intro t ls c h_c h_ls
    have h_stops : ∀ (c : Char) (t : Text), isNameChar c = false → Stops (c :: t) :=
      fun c t h_c d h_d => by
        obtain rfl : c = d := Option.some.inj h_d
        exact h_c
    have h_subscription : IsName "subscription".toList := .of_all rfl
    have h_name : IsName combinedOperationName := .of_all rfl
    rw [List.append_assoc]
    exact .name h_subscription (h_stops ' ' _ rfl)
      (.other (by decide) (.name h_name (h_stops c t h_c) h_ls))
  have h_lists : ∀ ls ∈ slots.flatMap (fun p => (ops p.1).definitionLists p.1),
      Reads (textOf ls) ls [] := by
    intro ls h_ls
    obtain ⟨p, hp, h_p⟩ := List.mem_flatMap.mp h_ls
    exact definitionLists_reads (h p hp) p.1 ls h_p
  unfold documentLexemes Parts.document
  cases h_all : slots.flatMap (fun p => (ops p.1).definitionLists p.1) with
  | nil =>
    -- no subscription has variables: no parentheses
    rw [h_all] at h_definitions
    rw [h_definitions]
    have h_text := h_head rfl h_selection
    simp only [List.append_assoc] at h_text ⊢
    exact h_text
  | cons ls lists =>
    -- the definitions of all subscriptions, joined inside one pair of parentheses
    rw [h_all] at h_definitions h_lists
    have h_first : ls ≠ [] := by
      have h_ls : ls ∈ slots.flatMap (fun p => (ops p.1).definitionLists p.1) := by
        rw [h_all]
        exact List.mem_cons_self
      obtain ⟨p, -, h_p⟩ := List.mem_flatMap.mp h_ls
      exact definitionLists_ne_nil h_p
    obtain ⟨l, joined, h_joined⟩ :=
      List.exists_cons_of_ne_nil (joinLists_ne_nil h_first lists)
    have h_group := joinLists_reads h_lists
      (" \x7b".toList ++ parts.fields.flatten ++ "\x7d".toList)
    rw [textOf_joinLists] at h_group
    have h_text := h_head (c := '(') rfl
      (.other (by decide) (h_group.append (.other (c := ')') (by decide) h_selection)))
    rw [h_definitions, h_joined]
    rw [h_joined] at h_text
    simp only [List.append_assoc, Operation.parenthesised] at h_text ⊢
    exact h_text

end Slots

/-! ### Variables of the combined document -/

/-- The variables that lexemes refer to. In definitions, whose defaults are
constants, these are the defined variables. -/
def references (ls : List Lexeme) : List Text :=
  ls.filterMap fun
    | .reference w => some w
    | _ => none

/-- References are found in each part on its own. -/
theorem references_append (ls ls' : List Lexeme) :
    references (ls ++ ls') = references ls ++ references ls' := List.filterMap_append

/-- The variables of a renamed text. -/
theorem references_prefixed (id : SlotId) (ls : List Lexeme) :
    references (ls.map (.prefixed (aliasOfSlot id))) =
      (references ls).map (variableName id) := by
  induction ls with
  | nil => rfl
  | cons l ls ih =>
    cases l with
    | reference w =>
      change _ :: references (ls.map _) = _ :: (references ls).map _
      rw [ih]
      rfl
    | _ => exact ih

/-- There is none in a text of `other` lexemes. -/
theorem references_map_other (t : Text) : references (t.map .other) = [] := by
  induction t with
  | nil => rfl
  | cons c t ih => exact ih

/-- Commas are no references. -/
theorem references_joinLists (lists : List (List Lexeme)) :
    references (joinLists lists) = lists.flatMap references := by
  induction lists with
  | nil => rfl
  | cons ls lists ih =>
    cases lists with
    | nil => exact (List.append_nil _).symm
    | cons ls' lists =>
      change references (ls ++ .other ',' :: .other ' ' :: joinLists (ls' :: lists)) = _
      rw [references_append, List.flatMap_cons, ← ih]
      rfl

/-- A lexeme without the prefix of a slot. A variable that lacks the prefix is
not one of the slot. -/
def Lexeme.unprefixed (aliasName : Text) : Lexeme → Option Lexeme
  | .reference w => (stripPrefix (aliasName ++ ['_']) w).map .reference
  | l => some l

/-- Removing the prefix of a slot from the variables of a text. -/
def withoutPrefix (aliasName : Text) (ls : List Lexeme) : Option (List Lexeme) :=
  ls.mapM (Lexeme.unprefixed aliasName)

/-- Removing the prefix of a slot from the variables of a request. -/
def membersWithoutPrefix (aliasName : Text) (m : List (Text × Json)) :
    Option (List (Text × Json)) :=
  m.mapM fun p => (stripPrefix (aliasName ++ ['_']) p.1).map fun name => (name, p.2)

/-- Undoing a step member by member. -/
theorem mapM_undo {α β : Type} {f : α → β} {g : β → Option α} (h : ∀ a, g (f a) = some a)
    (as : List α) : (as.map f).mapM g = some as := by
  induction as with
  | nil => rfl
  | cons a as ih =>
    rw [List.map_cons, List.mapM_cons, h a]
    change (do let as ← (as.map f).mapM g; pure (a :: as)) = _
    rw [ih]
    rfl

/-- **Renaming can be undone** on lexemes. -/
theorem withoutPrefix_prefixed (aliasName : Text) (ls : List Lexeme) :
    withoutPrefix aliasName (ls.map (.prefixed aliasName)) = some ls := by
  refine mapM_undo (fun l => ?_) ls
  cases l with
  | reference w =>
    change (stripPrefix (aliasName ++ ['_']) (aliasName ++ ['_'] ++ w)).map _ = _
    rw [stripPrefix_append]
    rfl
  | _ => rfl

/-- Renaming can be undone on the members of the variables. -/
theorem membersWithoutPrefix_prefixed (id : SlotId) (m : List (Text × Json)) :
    membersWithoutPrefix (aliasOfSlot id) (m.map fun p => (variableName id p.1, p.2)) =
      some m := by
  refine mapM_undo (fun p => ?_) m
  change (stripPrefix (aliasOfSlot id ++ ['_']) (aliasOfSlot id ++ ['_'] ++ p.1)).map _ = _
  rw [stripPrefix_append]
  rfl

/-- Variables of several slots are as distinct as those of each slot. -/
theorem nodup_variableName {ids : List SlotId} (h_ids : ids.Nodup) {names : SlotId → List Text}
    (h : ∀ id ∈ ids, (names id).Nodup) :
    (ids.flatMap fun id => (names id).map (variableName id)).Nodup := by
  refine List.nodup_flatMap.mpr ⟨fun id h_id => ?_, ?_⟩
  · exact (h id h_id).map fun name name' h_eq => (variableName_inj h_eq).2
  · refine h_ids.imp fun h_ne w h_w h_w' => h_ne ?_
    obtain ⟨name, -, h_name⟩ := List.mem_map.mp h_w
    obtain ⟨name', -, h_name'⟩ := List.mem_map.mp h_w'
    exact (variableName_inj (h_name.trans h_name'.symm)).1

/-! ### Root fields of the combined document -/

def Lexeme.opens : Lexeme → Bool
  | .other c => brackets.any fun p => decide (c = p.1)
  | _ => false

def Lexeme.closes : Lexeme → Bool
  | .other c => brackets.any fun p => decide (c = p.2)
  | _ => false

def Lexeme.isSpace : Lexeme → Bool
  | .other c => isWhitespace c
  | _ => false

/-- What stands outside all brackets, without the white space. -/
def topLevel : ℕ → List Lexeme → List Lexeme
  | _, [] => []
  | depth, l :: ls =>
    if l.opens then topLevel (depth + 1) ls
    else if l.closes then topLevel (depth - 1) ls
    else if depth = 0 ∧ l.isSpace = false then l :: topLevel depth ls
    else topLevel depth ls

/-- What is no bracket neither opens nor closes one. -/
theorem Lexeme.not_opens {l : Lexeme} (h : l.isBracket = false) :
    l.opens = false ∧ l.closes = false := by
  cases l with
  | other c =>
    simp only [Lexeme.isBracket, List.any_eq_false, Bool.or_eq_true, not_or] at h
    simp only [Lexeme.opens, Lexeme.closes, List.any_eq_false]
    exact ⟨fun p hp => (h p hp).1, fun p hp => (h p hp).2⟩
  | _ => exact ⟨rfl, rfl⟩

/-- Outside all brackets a lexeme counts, unless it is white space. -/
theorem topLevel_plain {l : Lexeme} (h : l.isBracket = false) (depth : ℕ) (ls : List Lexeme) :
    topLevel depth (l :: ls) =
      if depth = 0 ∧ l.isSpace = false then l :: topLevel depth ls else topLevel depth ls := by
  obtain ⟨h_opens, h_closes⟩ := Lexeme.not_opens h
  rw [topLevel, h_opens, h_closes]
  rfl

/-- The two ends of a group. -/
theorem topLevel_pair {opening closing : Char} (h : (opening, closing) ∈ brackets) (depth : ℕ)
    (ls : List Lexeme) :
    topLevel depth (.other opening :: ls) = topLevel (depth + 1) ls ∧
      topLevel (depth + 1) (.other closing :: ls) = topLevel depth ls := by
  simp only [brackets, List.mem_cons, List.not_mem_nil, or_false, Prod.mk.injEq] at h
  rcases h with ⟨rfl, rfl⟩ | ⟨rfl, rfl⟩ | ⟨rfl, rfl⟩ <;> exact ⟨rfl, rfl⟩

/-- Nothing inside a group is at the top level. -/
theorem topLevel_balanced {inner : List Lexeme} (h : Balanced inner) (depth : ℕ)
    (ls : List Lexeme) : topLevel (depth + 1) (inner ++ ls) = topLevel (depth + 1) ls := by
  induction h generalizing depth ls with
  | nil => rfl
  | plain h_plain _ ih =>
    rw [List.cons_append, topLevel_plain h_plain, if_neg fun h => Nat.succ_ne_zero _ h.1, ih]
  | group h_pair _ _ ih_content ih_rest =>
    rw [List.append_assoc, List.cons_append, (topLevel_pair h_pair _ _).1, ih_content,
      List.cons_append, (topLevel_pair h_pair _ _).2, ih_rest]

/-- White space is skipped. -/
theorem topLevel_space {c : Char} (h : isWhitespace c = true) (ls : List Lexeme) :
    topLevel 0 (.other c :: ls) = topLevel 0 ls := by
  have h_plain : (Lexeme.other c).isBracket = false := by
    rw [← Bool.not_eq_true]
    intro h_bracket
    simp only [Lexeme.isBracket, brackets, List.any_cons, List.any_nil, Bool.or_eq_true,
      decide_eq_true_eq, Bool.false_eq_true, or_false] at h_bracket
    rcases h_bracket with (rfl | rfl) | (rfl | rfl) | rfl | rfl <;> exact absurd h (by decide)
  have h_space : (Lexeme.other c).isSpace = true := h
  rw [topLevel_plain h_plain, h_space, if_neg fun h => Bool.noConfusion h.2]

/-- So is indentation. -/
theorem topLevel_indent {indent : Text} (h : IsSpace indent) (ls : List Lexeme) :
    topLevel 0 (indent.map .other ++ ls) = topLevel 0 ls := by
  induction indent with
  | nil => rfl
  | cons c indent ih =>
    obtain ⟨h_c, h_indent⟩ := List.forall_mem_cons.mp h
    rw [List.map_cons, List.cons_append, topLevel_space h_c, ih h_indent]

/-- Arguments and selection sets are groups. -/
theorem topLevel_fieldTail {tail : List Lexeme} (h : FieldTail tail) (ls : List Lexeme) :
    topLevel 0 (tail ++ ls) = topLevel 0 ls := by
  induction h with
  | nil => rfl
  | space h_space _ ih => rw [List.cons_append, topLevel_space h_space, ih]
  | group h_pair h_content _ ih =>
    rw [List.append_assoc, List.cons_append, (topLevel_pair h_pair _ _).1,
      topLevel_balanced h_content, List.cons_append, (topLevel_pair h_pair _ _).2, ih]

/-- Renaming keeps the shape of what follows the field. -/
theorem FieldTail.prefixed {tail : List Lexeme} (h : FieldTail tail) (aliasName : Text) :
    FieldTail (tail.map (.prefixed aliasName)) := by
  induction h with
  | nil => exact .nil
  | space h_space _ ih => exact .space h_space ih
  | group h_pair h_content _ ih =>
    rw [List.map_append, List.map_cons, List.map_cons]
    exact .group h_pair h_content.prefixed ih

/-- **A labelled root field** is one field at the top level. -/
theorem topLevel_labelled {op : Operation} {document : Text} (h : op.Renders document)
    (id : SlotId) (ls : List Lexeme) : topLevel 0 (op.labelled id ++ ls) =
      .name (aliasOfSlot id) :: .other ':' :: .name op.field :: topLevel 0 ls := by
  have h_tail := topLevel_fieldTail (h.field_tail.prefixed (aliasOfSlot id)) ls
  unfold Operation.labelled
  rw [List.append_assoc, topLevel_indent h.indent, ← h_tail]
  rfl

/-- **The root fields of the combined document**, with their labels. -/
theorem topLevel_fields {slots : Snapshot V} {ops : SlotId → Operation}
    (h : ∀ p ∈ slots, (ops p.1).Renders p.2.spec.document) :
    topLevel 0 (slots.flatMap fun p => (ops p.1).labelled p.1) =
      slots.flatMap fun p => [.name (aliasOfSlot p.1), .other ':', .name (ops p.1).field] := by
  induction slots with
  | nil => rfl
  | cons p slots ih =>
    obtain ⟨h_p, h_slots⟩ := List.forall_mem_cons.mp h
    rw [List.flatMap_cons, List.flatMap_cons, topLevel_labelled h_p, ih h_slots]
    rfl

/-! ### The combined document -/

/-- Every variable that occurs in the parts of one slot. -/
def variablesIn (definitions field : List Lexeme) (m : List (Text × Json)) : List Text :=
  references definitions ++ references field ++ m.map Prod.fst

/-- **The variables of a renamed operation** are those of the operation, renamed. -/
theorem variablesIn_renamed (op : Operation) (id : SlotId) (m : List (Text × Json)) :
    variablesIn (op.renamed id) (op.labelled id) (m.map fun p => (variableName id p.1, p.2)) =
      (variablesIn op.definitions op.tail m).map (variableName id) := by
  have h_field : references (op.labelled id) = (references op.tail).map (variableName id) := by
    unfold Operation.labelled
    rw [references_append, references_map_other, ← references_prefixed]
    rfl
  have h_keys : (m.map fun p => (variableName id p.1, p.2)).map Prod.fst =
      (m.map Prod.fst).map (variableName id) := by
    rw [List.map_map, List.map_map]
    rfl
  unfold variablesIn Operation.renamed
  rw [references_prefixed, h_field, h_keys, List.map_append, List.map_append]

/-- The definitions of all slots that have some. -/
def joinedDefinitions (slots : Snapshot V) (definitionsOf : SlotId → List Lexeme) : List Lexeme :=
  joinLists ((slots.map fun p => definitionsOf p.1).filter fun ls => !ls.isEmpty)

/-- **What a combined document is made of**: the parts of its slots, which are
given back when the prefix of the slot is removed from their variables. -/
structure Combined (slots : Snapshot V) (ops : SlotId → Operation)
    (members : SlotId → List (Text × Json)) (connection : Connection V)
    (definitionsOf fieldOf : SlotId → List Lexeme) (variablesOf : SlotId → List (Text × Json)) :
    Prop where
  /-- Every slot has one alias, which stands for its root field. -/
  targets : connection.targets.Perm (slots.map fun p => (aliasOfSlot p.1,
    { id := p.1, field := (ops p.1).field, decode := p.2.spec.decode }))
  targets_nodup : (connection.targets.map Prod.fst).Nodup
  /-- The text of the document has one reading. -/
  document : ∃ query, connection.body = .object [("query".toList, .string query),
      ("variables".toList, .object (slots.flatMap fun p => variablesOf p.1))] ∧
    ∀ ls, Reads query ls [] ↔ ls = documentLexemes (joinedDefinitions slots definitionsOf)
      (slots.flatMap fun p => fieldOf p.1)
  /-- Its selection set has one root field for every slot, with the label of the slot. -/
  roots : topLevel 0 (slots.flatMap fun p => fieldOf p.1) =
    slots.flatMap fun p => [.name (aliasOfSlot p.1), .other ':', .name (ops p.1).field]
  field : ∀ p ∈ slots, ∃ root, fieldOf p.1 = (ops p.1).indent.map .other ++
      .name (aliasOfSlot p.1) :: .other ':' :: .other ' ' :: root ∧
    withoutPrefix (aliasOfSlot p.1) ((ops p.1).indent.map .other ++ root) =
      some (ops p.1).selection
  definitions : ∀ p ∈ slots,
    withoutPrefix (aliasOfSlot p.1) (definitionsOf p.1) = some (ops p.1).definitions
  queryVariables : ∀ p ∈ slots,
    membersWithoutPrefix (aliasOfSlot p.1) (variablesOf p.1) = some (members p.1)
  /-- No variable of one slot is one of another. -/
  apart : ∀ p ∈ slots, ∀ q ∈ slots, p.1 ≠ q.1 →
    ∀ w ∈ variablesIn (definitionsOf p.1) (fieldOf p.1) (variablesOf p.1),
      w ∉ variablesIn (definitionsOf q.1) (fieldOf q.1) (variablesOf q.1)
  definitions_count : (references (joinedDefinitions slots definitionsOf)).length =
    (slots.map fun p => (references (ops p.1).definitions).length).sum
  definitions_nodup : (∀ p ∈ slots, (references (ops p.1).definitions).Nodup) →
    (references (joinedDefinitions slots definitionsOf)).Nodup
  variables_count : (slots.flatMap fun p => variablesOf p.1).length =
    (slots.map fun p => (members p.1).length).sum
  variables_nodup : ((slots.flatMap fun p => variablesOf p.1).map Prod.fst).Nodup

/-- The definitions of the combined document are the renamed ones of all slots. -/
theorem joinedDefinitions_renamed (slots : Snapshot V) (ops : SlotId → Operation) :
    joinedDefinitions slots (fun id => (ops id).renamed id) =
      joinLists (slots.flatMap fun p => (ops p.1).definitionLists p.1) := by
  unfold joinedDefinitions
  congr 1
  induction slots with
  | nil => rfl
  | cons p slots ih =>
    rw [List.map_cons, List.flatMap_cons, ← ih]
    have h_empty : ((ops p.1).renamed p.1).isEmpty = (ops p.1).definitions.isEmpty :=
      List.isEmpty_map
    unfold Operation.definitionLists
    cases h : (ops p.1).definitions.isEmpty with
    | true => rw [List.filter_cons_of_neg (by rw [h_empty, h]; exact Bool.false_ne_true)]; rfl
    | false => rw [List.filter_cons_of_pos (by rw [h_empty, h]; rfl)]; rfl

/-- The variables defined by the combined document. -/
theorem references_definitions (slots : Snapshot V) (ops : SlotId → Operation) :
    references (joinedDefinitions slots fun id => (ops id).renamed id) =
      (slots.map Prod.fst).flatMap fun id =>
        (references (ops id).definitions).map (variableName id) := by
  rw [joinedDefinitions_renamed, references_joinLists, List.flatMap_map, List.flatMap_assoc]
  congr 1
  funext p
  unfold Operation.definitionLists
  split
  · next h_empty => rw [List.isEmpty_iff.mp h_empty]; rfl
  · rw [List.flatMap_singleton]
    exact references_prefixed p.1 _

/-- **The combined document preserves the meaning of every subscription.** -/
theorem combined_document_preserves {slots : Snapshot V} {ops : SlotId → Operation}
    {members : SlotId → List (Text × Json)} (h_ids : (slots.map Prod.fst).Nodup)
    (h : Rendered slots ops members) :
    ∃ connection definitionsOf fieldOf variablesOf,
      (buildConnection slots).run = some (.ok connection) ∧
      Combined slots ops members connection definitionsOf fieldOf variablesOf := by
  -- what the loop over the slots has collected
  obtain ⟨parts, h_run, h_definitions, h_fields, h_queryVariables, h_targets⟩ :=
    addSlots_rendered h h_ids {} (fun _ _ => List.not_mem_nil) (fun _ _ _ => List.not_mem_nil)
  rw [List.append_nil] at h_targets
  rw [List.nil_append] at h_definitions h_fields h_queryVariables
  -- the two texts, joined, read as the lexemes of all documents
  have h_read := document_reads h.renders h_definitions h_fields
  rw [← joinedDefinitions_renamed] at h_read
  have h_names := references_definitions slots ops
  refine ⟨_, fun id => (ops id).renamed id, fun id => (ops id).labelled id,
    fun id => (members id).map fun m => (variableName id m.1, m.2),
    checked_bind_ok.mpr ⟨parts, h_run, rfl⟩, ?_⟩
  constructor
  case targets => exact h_targets
  case targets_nodup =>
    refine (h_targets.map Prod.fst).nodup_iff.mpr ?_
    rw [List.map_map]
    have h_aliases := h_ids.map (f := aliasOfSlot) fun id id' h_eq => aliasOfSlot_inj h_eq
    rw [List.map_map] at h_aliases
    exact h_aliases
  case document =>
    -- the text of the document determines how it is read
    refine ⟨parts.document, by rw [h_queryVariables], fun ls => ⟨fun h_ls => ?_, ?_⟩⟩
    · exact h_ls.deterministic h_read
    · rintro rfl
      exact h_read
  case roots => exact topLevel_fields h.renders
  case field =>
    intro p _
    refine ⟨.name (ops p.1).field :: (ops p.1).tail.map (.prefixed (aliasOfSlot p.1)), rfl, ?_⟩
    rw [← selection_prefixed]
    exact withoutPrefix_prefixed _ _
  case definitions => exact fun p _ => withoutPrefix_prefixed _ _
  case queryVariables => exact fun p _ => membersWithoutPrefix_prefixed p.1 _
  -- a variable of both would have two prefixes
  case apart =>
    intro p _ q _ h_ne w h_w h_w'
    rw [variablesIn_renamed] at h_w h_w'
    obtain ⟨name, -, h_name⟩ := List.mem_map.mp h_w
    obtain ⟨name', -, h_name'⟩ := List.mem_map.mp h_w'
    exact h_ne (variableName_inj (h_name.trans h_name'.symm)).1
  case definitions_count =>
    rw [h_names, List.length_flatMap, List.map_map]
    simp only [List.length_map]
    rfl
  case definitions_nodup =>
    intro h_nodup
    rw [h_names]
    -- names that are distinct in their own document stay so behind its prefix
    refine nodup_variableName h_ids fun id h_id => ?_
    obtain ⟨p, hp, rfl⟩ := List.mem_map.mp h_id
    exact h_nodup p hp
  case variables_count =>
    rw [List.length_flatMap]
    simp
  case variables_nodup =>
    have h_names : ∀ id ∈ slots.map Prod.fst, ((members id).map Prod.fst).Nodup := by
      intro id h_id
      obtain ⟨p, hp, rfl⟩ := List.mem_map.mp h_id
      exact h.members_nodup p hp
    have h_nodup := nodup_variableName h_ids h_names
    rw [List.flatMap_map] at h_nodup
    rw [List.map_flatMap]
    simp only [List.map_map] at h_nodup ⊢
    exact h_nodup

/-- A subscription with a variable, and with a literal that looks like one. -/
def noteOperation : Operation where
  name := "Notes".toList
  definitions := [.reference "x".toList, .other ':', .name "Int".toList]
  indent := "\n  ".toList
  field := "notes".toList
  tail := .other '(' :: [.name "to".toList, .other ':', .reference "x".toList, .other ',',
      .name "by".toList, .other ':', .literal "\"$x)\"".toList] ++ .other ')' ::
    (.other '\x7b' :: [.name "id".toList, .other '\n'] ++ .other '\x7d' :: [.other '\n'])

def noteDocument : Text :=
  "subscription Notes($x:Int) \x7b\n  notes(to:$x,by:\"$x)\")\x7bid\n\x7d\n\x7d\n".toList

def noteMembers : List (Text × Json) := [("x".toList, .number 7 0)]

def noteSlots (ids : List SlotId) : Snapshot Json :=
  ids.map fun id => (id, { spec := {
    document := noteDocument
    queryVariables := .object noteMembers
    decode := some
    resume := none } })

/-- A name ends before a character that cannot be part of it. -/
theorem stops_cons {c : Char} (h : isNameChar c = false) (t : Text) : Stops (c :: t) := by
  intro d h_d
  obtain rfl : c = d := Option.some.inj h_d
  exact h

/-- The sample operation renders its document. -/
theorem noteOperation_renders : noteOperation.Renders noteDocument where
  name := .of_all rfl
  balanced := .plain rfl (.plain rfl (.plain rfl .nil))
  definitions_read := by
    have h_end : Stops [] := fun c h_c => by cases h_c
    exact .reference (.of_all rfl) (stops_cons rfl _)
      (.other (by decide) (.name (.of_all rfl) h_end .done))
  indent := isSpace_of_all rfl
  field_tail := by
    -- one argument is a variable, the other a literal with `$x` and a parenthesis in it
    have h_arguments : Balanced [.name "to".toList, .other ':', .reference "x".toList,
        .other ',', .name "by".toList, .other ':', .literal "\"$x)\"".toList] :=
      .plain rfl (.plain rfl (.plain rfl (.plain rfl (.plain rfl (.plain rfl (.plain rfl .nil))))))
    have h_selected : Balanced [.name "id".toList, .other '\n'] := .plain rfl (.plain rfl .nil)
    exact .group (by decide) h_arguments (.group (by decide) h_selected (.space (by decide) .nil))
  ended := ⟨'\n', rfl⟩
  selection_read := by
    have h_closed : StringLiteral "\"$x)\"".toList :=
      .quoted (.char (by decide) (by decide) (.char (by decide) (by decide)
        (.char (by decide) (by decide) .nil)))
    have h_apart : ∀ t : Text, "\"$x)\"".toList = emptyString → t.head? ≠ some '"' :=
      fun _ h => absurd h (by decide)
    have h_id : IsName "id".toList := .of_all rfl
    have h_notes : IsName "notes".toList := .of_all rfl
    have h_to : IsName "to".toList := .of_all rfl
    have h_x : IsName "x".toList := .of_all rfl
    have h_end : Reads "\n\x7d\n".toList [.other '\n', .other '\x7d', .other '\n'] [] :=
      .other (by decide) (.other (by decide) (.other (by decide) .done))
    have h_selected : Reads ")\x7bid\n\x7d\n".toList
        (.other ')' :: .other '\x7b' :: .name "id".toList :: _) [] :=
      .other (by decide) (.other (by decide) (.name h_id (stops_cons rfl _) h_end))
    have h_name : IsName "by".toList := .of_all rfl
    have h_by : Reads (",by:\"$x)\")\x7bid\n\x7d\n".toList) (.other ',' :: .name "by".toList ::
        .other ':' :: .literal "\"$x)\"".toList :: _) [] :=
      .other (by decide) (.name h_name (stops_cons rfl _)
        (.other (by decide) (.literal h_closed (h_apart _) h_selected)))
    have h_field : Reads ("notes(to:$x,by:\"$x)\")\x7bid\n\x7d\n".toList) (.name "notes".toList ::
        .other '(' :: .name "to".toList :: .other ':' :: .reference "x".toList :: _) [] :=
      .name h_notes (stops_cons rfl _) (.other (by decide) (.name h_to (stops_cons rfl _)
        (.other (by decide) (.reference h_x (stops_cons rfl _) h_by))))
    exact .other (by decide) (.other (by decide) (.other (by decide) h_field))
  layout := ⟨[], " ".toList, [], " ".toList, "\n".toList, isSpace_of_all rfl, isSpace_of_all rfl,
    isSpace_of_all rfl, isSpace_of_all rfl, isSpace_of_all rfl, by decide⟩

/-- Slots 1 and 11 with the same variable. -/
theorem combined_document_preserves_notes :
    ∃ connection definitionsOf fieldOf variablesOf,
      (buildConnection (noteSlots [1, 11])).run = some (.ok connection) ∧
      Combined (noteSlots [1, 11]) (fun _ => noteOperation) (fun _ => noteMembers) connection
        definitionsOf fieldOf variablesOf := by
  refine combined_document_preserves (by decide) ⟨?_, ?_, ?_⟩
  · intro p hp
    obtain ⟨id, -, rfl⟩ := List.mem_map.mp hp
    exact noteOperation_renders
  · intro p hp
    obtain ⟨id, -, rfl⟩ := List.mem_map.mp hp
    rfl
  · intro p _
    exact List.nodup_singleton _

end Blokli
