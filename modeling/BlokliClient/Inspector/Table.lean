import BlokliClient.Library.SortedMap
import BlokliClient.Wire
import Mathlib.Data.Char
import Mathlib.Data.List.Infix
import Mathlib.Data.List.Lex

/-!
# The inspector: values as tables

A value is shown as tables. Nested objects are flattened: a field of a table is the path of
keys to a value that is not an object, with dots in between. An object is shown as two
columns, field and value, and each list of objects in it as a table below. A list of
objects is shown with one row for each and one column for each of their fields.

* `At` : what is at a path of keys.
* `detail_table` : the fields of an object are the paths in it, and the tables below are
  the lists of objects in it.
* `list_table` : the cells of a list are what is at their column in the object of their
  row, or a dash.
-/

namespace Blokli.Inspector

open SortedMap (insertAll find Sorted)

/-! ### Text -/

/-- How tables are drawn, and numbers and objects are written. -/
structure Printer where
  table : List Text → List (List Text) → Text
  number : ℤ → ℕ → Text
  json : List (Text × Json) → Text

def isObject : Json → Bool
  | .object _ => true
  | _ => false

/-- `dotted_path`. -/
def dottedPath (parent : Option Text) (child : Text) : Text :=
  match parent with
  | none => child
  | some parent => parent ++ '.' :: child

/-- `nested_rows_below_placeholder`. -/
def nestedRowsBelowPlaceholder (len : ℕ) : Text :=
  '(' :: Nat.toDigits 10 len ++ ' ' :: (if len = 1 then "row" else "rows").toList ++
    " below)".toList

/-- `omit_list_column`. -/
def omitListColumn (field : Text) : Bool :=
  ["destination.packet_key", "destination.peer_id", "destination.safe_address",
    "source.packet_key", "source.peer_id", "source.safe_address"].any fun column =>
      field == column.toList

section Rendering

variable (printer : Printer)

mutual

/-- `inline_value`. -/
def inlineValue : Json → Text
  | .null => "-".toList
  | .bool b => (if b then "true" else "false").toList
  | .number mantissa exponent => printer.number mantissa exponent
  | .string s => s
  | .array xs => if xs.isEmpty then "(empty)".toList else ", ".toList.intercalate (inlineValues xs)
  | .object members => printer.json members

def inlineValues : List Json → List Text
  | [] => []
  | x :: xs => inlineValue x :: inlineValues xs

end

/-! ### Flattening -/

/-- The fields of an object, sorted, and the lists that are shown below it. -/
structure Flat where
  fields : List (Text × Text)
  lists : List (Text × List Json)

/-- The list is shown below. -/
def shownBelow (xs : List Json) : Bool := xs.all isObject && !xs.isEmpty

mutual

/-- `flatten_object`. -/
def flattenObject (parent : Option Text) : List (Text × Json) → Flat → Flat
  | [], flat => flat
  | (field, value) :: members, flat =>
    flattenObject parent members (flattenValue (dottedPath parent field) value flat)

/-- The three cases of a member. -/
def flattenValue (path : Text) : Json → Flat → Flat
  | .object members, flat => flattenObject (some path) members flat
  | .array xs, flat =>
    if shownBelow xs then {
      fields := SortedMap.insert path (nestedRowsBelowPlaceholder xs.length) flat.fields
      lists := flat.lists ++ [(path, xs)] }
    else { flat with fields := SortedMap.insert path (inlineValue printer (.array xs)) flat.fields }
  | value, flat =>
    { flat with fields := SortedMap.insert path (inlineValue printer value) flat.fields }

end

mutual

/-- The members of an object in a list row, each at its path. -/
def flattenRowMembers (parent : Option Text) :
    List (Text × Json) → List (Text × Text) → List (Text × Text)
  | [], fields => fields
  | (field, value) :: members, fields =>
    flattenRowMembers parent members (flattenListRowValue (dottedPath parent field) value fields)

/-- `flatten_list_row_value`. -/
def flattenListRowValue (path : Text) : Json → List (Text × Text) → List (Text × Text)
  | .object members, fields =>
    if omitListColumn path then fields else flattenRowMembers (some path) members fields
  | value, fields =>
    if omitListColumn path then fields
    else SortedMap.insert path (inlineValue printer value) fields

end

/-- `flatten_list_row`. -/
def flattenListRow (members : List (Text × Json)) (fields : List (Text × Text)) :
    List (Text × Text) :=
  flattenRowMembers printer none members fields

/-! ### Tables -/

/-- The columns of all rows, in a set. -/
def columnsOf (rows : List (List (Text × Text))) : List Text :=
  (insertAll ((rows.flatMap fun fields => fields.map Prod.fst).map fun column => (column, ())) []).map
    
    Prod.fst

/-- The row of the object at the index. -/
def tableRow (columns : List Text) (index : ℕ) (fields : List (Text × Text)) : List Text :=
  Nat.toDigits 10 index :: columns.map fun column => (find column fields).getD "-".toList

/-- The header and the rows of a list of objects. -/
def objectListTable (values : List Json) : List Text × List (List Text) :=
  -- the list only contains objects
  let rows := values.map fun value => flattenListRow printer (value.asObject.getD []) []
  let columns := columnsOf rows
  ("INDEX".toList :: columns, rows.mapIdx (tableRow columns))

/-- `render_object_list`. -/
def renderObjectList (values : List Json) : Text :=
  printer.table (objectListTable printer values).1 (objectListTable printer values).2

/-- `render_value_list`. -/
def renderValueList (values : List Json) : Text :=
  printer.table ["VALUE".toList] (values.map fun value => [inlineValue printer value])

/-- `render_list`. -/
def renderList (values : List Json) : Text :=
  if values.isEmpty then "(empty)".toList
  else if values.all isObject then renderObjectList printer values
  else renderValueList printer values

/-- `render_detail_box`. -/
def renderDetailBox (fields : List (Text × Text)) : Text :=
  printer.table ["FIELD".toList, "VALUE".toList] (fields.map fun field => [field.1, field.2])

/-- `render_object`. -/
def renderObject (members : List (Text × Json)) : Text :=
  let flat := flattenObject printer none members ⟨[], []⟩
  "\n\n".toList.intercalate (renderDetailBox printer flat.fields ::
    flat.lists.map fun list => list.1 ++ '\n' :: renderList printer list.2)

/-- `render`. -/
def render : Json → Text
  | .array values => renderList printer values
  | .object members => renderObject printer members
  | value => inlineValue printer value

end Rendering

/-! ### Paths -/

/-- **What is at a path of keys** in a value. -/
inductive At : Json → List Text → Json → Prop
  | here {value : Json} : At value [] value
  | member {members : List (Text × Json)} {key : Text} {value leaf : Json} {keys : List Text} :
      (key, value) ∈ members → At value keys leaf → At (.object members) (key :: keys) leaf

/-- The objects in a value have no key twice, and no key with a dot. -/
structure Keyed (value : Json) : Prop where
  distinct : ∀ keys members, At value keys (.object members) → (members.map Prod.fst).Nodup
  plain : ∀ keys members, At value keys (.object members) →
    ∀ key ∈ members.map Prod.fst, '.' ∉ key

/-- The field of a path. -/
def dotted (keys : List Text) : Text := ['.'].intercalate keys

mutual

/-- What is in a value and is not an object, each with its path. -/
def leavesAt (keys : List Text) : Json → List (List Text × Json)
  | .object members => leavesIn keys members
  | value => [(keys, value)]

def leavesIn (keys : List Text) : List (Text × Json) → List (List Text × Json)
  | [] => []
  | (key, value) :: members => leavesAt (keys ++ [key]) value ++ leavesIn keys members

end

/-! ### Dotted paths -/

/-- A dotted path, from its first key. -/
theorem dotted_cons_cons (key key' : Text) (keys : List Text) :
    dotted (key :: key' :: keys) = key ++ '.' :: dotted (key' :: keys) := by
  unfold dotted
  rw [List.intercalate_cons_cons, List.append_assoc]
  rfl

/-- One key is its own dotted path. -/
theorem dotted_singleton (key : Text) : dotted [key] = key := by
  unfold dotted
  exact List.intercalate_singleton

/-- A dotted path, to its last key. -/
theorem dotted_snoc {keys : List Text} (h : keys ≠ []) (key : Text) :
    dotted (keys ++ [key]) = dotted keys ++ '.' :: key := by
  induction keys with
  | nil => exact absurd rfl h
  | cons first keys ih =>
    -- a single key, or a path with a dot in it
    cases keys with
    | nil => rw [List.singleton_append, dotted_cons_cons, dotted_singleton, dotted_singleton]
    | cons second keys =>
      have h_rest := ih (List.cons_ne_nil second keys)
      rw [List.cons_append] at h_rest
      rw [List.cons_append, List.cons_append, dotted_cons_cons, dotted_cons_cons, h_rest,
        List.append_assoc, List.cons_append]

/-- Keys without dots are read off the path. -/
theorem dotted_injective {keys keys' : List Text} (h_ne : keys ≠ []) (h_ne' : keys' ≠ [])
    (h_plain : ∀ key ∈ keys, '.' ∉ key) (h_plain' : ∀ key ∈ keys', '.' ∉ key)
    (h : dotted keys = dotted keys') : keys = keys' := by
  have h_split : (dotted keys).splitOn '.' = keys := List.splitOn_intercalate '.' h_plain h_ne
  have h_split' : (dotted keys').splitOn '.' = keys' := List.splitOn_intercalate '.' h_plain' h_ne'
  rw [← h_split, h, h_split']

/-- The path of the object that is being flattened. -/
def parentOf (keys : List Text) : Option Text := if keys = [] then none else some (dotted keys)

/-- `dotted_path` appends a key to the path of its parent. -/
theorem dottedPath_parentOf (keys : List Text) (key : Text) :
    dottedPath (parentOf keys) key = dotted (keys ++ [key]) := by
  unfold parentOf
  split
  -- at the top a column is the key alone
  · next h_nil =>
    rw [h_nil, List.nil_append, dotted_singleton]
    rfl
  -- below, the path and the key have a dot between
  · next h_ne =>
    rw [dotted_snoc h_ne]
    rfl

/-! ### Leaves -/

mutual

/-- The leaves below a value are what is at a path from it and is no object. -/
theorem mem_leavesAt {path keys : List Text} {leaf : Json} : ∀ {value : Json},
    (path, leaf) ∈ leavesAt keys value ↔
      ∃ rest, path = keys ++ rest ∧ At value rest leaf ∧ isObject leaf = false
  | .object members => by
    change (path, leaf) ∈ leavesIn keys members ↔ _
    rw [mem_leavesIn]
    constructor
    · rintro ⟨key, value, rest, h_mem, rfl, h_at, h_leaf⟩
      exact ⟨key :: rest, rfl, .member h_mem h_at, h_leaf⟩
    · rintro ⟨rest, rfl, h_at, h_leaf⟩
      cases h_at with
      | here => cases h_leaf
      | member h_mem h_at => exact ⟨_, _, _, h_mem, rfl, h_at, h_leaf⟩
  | .null | .bool _ | .number _ _ | .string _ | .array _ => by
    constructor
    · intro h
      obtain ⟨rfl, rfl⟩ := Prod.mk.inj (List.mem_singleton.mp h)
      exact ⟨[], (List.append_nil _).symm, .here, rfl⟩
    · rintro ⟨rest, rfl, h_at, -⟩
      cases h_at
      rw [List.append_nil]
      exact List.mem_singleton.mpr rfl

/-- The same for the members of an object. -/
theorem mem_leavesIn {path keys : List Text} {leaf : Json} : ∀ {members : List (Text × Json)},
    (path, leaf) ∈ leavesIn keys members ↔
      ∃ key value rest, (key, value) ∈ members ∧ path = keys ++ key :: rest ∧
        At value rest leaf ∧ isObject leaf = false
  | [] => by
    constructor
    · exact fun h => absurd h List.not_mem_nil
    · rintro ⟨_, _, _, h_mem, -⟩
      exact absurd h_mem List.not_mem_nil
  | (key, value) :: members => by
    unfold leavesIn
    rw [List.mem_append, mem_leavesAt, mem_leavesIn]
    constructor
    · rintro (⟨rest, rfl, h_at, h_leaf⟩ | ⟨key', value', rest, h_mem, rfl, h_at, h_leaf⟩)
      · exact ⟨key, value, rest, List.mem_cons_self, List.append_assoc _ _ _, h_at, h_leaf⟩
      · exact ⟨key', value', rest, List.mem_cons_of_mem _ h_mem, rfl, h_at, h_leaf⟩
    · rintro ⟨key', value', rest, h_mem, rfl, h_at, h_leaf⟩
      rcases List.mem_cons.mp h_mem with h_eq | h_mem
      · obtain ⟨rfl, rfl⟩ := Prod.mk.inj h_eq
        exact Or.inl ⟨rest, List.append_cons _ _ _, h_at, h_leaf⟩
      · exact Or.inr ⟨key', value', rest, h_mem, rfl, h_at, h_leaf⟩

end

/-- The keys of a member are distinct and plain when all are. -/
theorem Keyed.of_mem {members : List (Text × Json)} {key : Text} {value : Json}
    (h : Keyed (.object members)) (h_mem : (key, value) ∈ members) : Keyed value where
  distinct keys inner h_at := h.distinct (key :: keys) inner (.member h_mem h_at)
  plain keys inner h_at := h.plain (key :: keys) inner (.member h_mem h_at)

/-- A value that is no object has no keys. -/
theorem Keyed.leaf {value : Json} (h : isObject value = false) : Keyed value where
  distinct keys members h_at := by
    cases h_at <;> cases h
  plain keys members h_at := by
    cases h_at <;> cases h

/-- An object, from its own keys and its members. -/
theorem Keyed.object {members : List (Text × Json)} (h_distinct : (members.map Prod.fst).Nodup)
    (h_plain : ∀ key ∈ members.map Prod.fst, '.' ∉ key)
    (h_members : ∀ key value, (key, value) ∈ members → Keyed value) : Keyed (.object members) where
  distinct keys inner h_at := by
    -- this object, or one further down
    cases h_at with
    | here => exact h_distinct
    | member h_mem h_at => exact (h_members _ _ h_mem).distinct _ _ h_at
  plain keys inner h_at := by
    cases h_at with
    | here => exact h_plain
    | member h_mem h_at => exact (h_members _ _ h_mem).plain _ _ h_at

mutual

/-- No path comes twice. -/
theorem nodup_leavesAt {keys : List Text} : ∀ {value : Json}, Keyed value →
    ((leavesAt keys value).map Prod.fst).Nodup
  | .object members => fun h =>
    nodup_leavesIn (h.distinct [] members .here) fun _ _ h_mem => h.of_mem h_mem
  | .null | .bool _ | .number _ _ | .string _ | .array _ => fun _ => List.nodup_singleton _

/-- In an object with distinct keys no two leaves have one path. -/
theorem nodup_leavesIn {keys : List Text} : ∀ {members : List (Text × Json)},
    (members.map Prod.fst).Nodup → (∀ key value, (key, value) ∈ members → Keyed value) →
    ((leavesIn keys members).map Prod.fst).Nodup
  | [] => fun _ _ => List.nodup_nil
  | (key, value) :: members => fun h_nodup h_keyed => by
    obtain ⟨h_fresh, h_rest⟩ := List.nodup_cons.mp h_nodup
    unfold leavesIn
    rw [List.map_append]
    refine List.nodup_append'.mpr ⟨nodup_leavesAt (h_keyed key value List.mem_cons_self),
      nodup_leavesIn h_rest fun k v h_mem => h_keyed k v (List.mem_cons_of_mem _ h_mem), ?_⟩
    -- the first key of the paths differs
    intro path h_path h_path'
    obtain ⟨⟨_, leaf⟩, h_leaf, rfl⟩ := List.mem_map.mp h_path
    obtain ⟨⟨_, leaf'⟩, h_leaf', h_eq⟩ := List.mem_map.mp h_path'
    obtain ⟨rest, rfl, -, -⟩ := mem_leavesAt.mp h_leaf
    obtain ⟨key', value', rest', h_mem, rfl, -, -⟩ := mem_leavesIn.mp h_leaf'
    dsimp only at h_eq
    rw [List.append_assoc] at h_eq
    obtain ⟨rfl, -⟩ := List.cons.inj (List.append_cancel_left h_eq)
    exact h_fresh (List.mem_map.mpr ⟨(key', value'), h_mem, rfl⟩)

end

/-- The paths to the leaves of an object have a key, and no dots in their keys. -/
theorem Keyed.path {members : List (Text × Json)} (h : Keyed (.object members))
    {path : List Text} {leaf : Json} (h_at : At (.object members) path leaf)
    (h_leaf : isObject leaf = false) : path ≠ [] ∧ ∀ key ∈ path, '.' ∉ key := by
  constructor
  · -- an array or a value is its own leaf
    rintro rfl
    cases h_at
    cases h_leaf
  · -- each key of the path belongs to an object on the way
    clear h_leaf
    generalize h_value : Json.object members = value at h h_at
    clear h_value
    induction h_at with
    | here => exact fun key h_key => absurd h_key List.not_mem_nil
    | member h_mem h_at ih =>
      intro key h_key
      rcases List.mem_cons.mp h_key with rfl | h_key
      · exact h.plain [] _ .here key (List.mem_map_of_mem h_mem)
      · exact ih (h.of_mem h_mem) key h_key

/-- Paths that are shown as the same field are the same. -/
theorem nodup_dotted {members : List (Text × Json)} (h : Keyed (.object members)) :
    ((leavesIn [] members).map fun leaf => dotted leaf.1).Nodup := by
  have h_nodup : ((leavesAt [] (.object members)).map Prod.fst).Nodup := nodup_leavesAt h
  -- a path is read back from its column, since no key of it contains a dot
  have h_paths : ∀ path ∈ (leavesIn [] members).map Prod.fst,
      path ≠ [] ∧ ∀ key ∈ path, '.' ∉ key := by
    intro path h_path
    obtain ⟨⟨_, leaf⟩, h_leaf, rfl⟩ := List.mem_map.mp h_path
    obtain ⟨key, value, rest, h_mem, h_eq, h_at, h_plain⟩ := mem_leavesIn.mp h_leaf
    dsimp only at h_eq ⊢
    rw [h_eq]
    exact h.path (.member h_mem h_at) h_plain
  -- distinct paths have distinct columns
  have h_map := h_nodup.map_on fun path h_path path' h_path' h_eq =>
    dotted_injective (h_paths path h_path).1 (h_paths path' h_path').1 (h_paths path h_path).2
      (h_paths path' h_path').2 h_eq
  rw [List.map_map] at h_map
  exact h_map

/-! ### The fields of an object -/

section Detail

variable {printer : Printer}

/-- The text of a value in its field. -/
def shown (printer : Printer) : Json → Text
  | .array xs =>
    if shownBelow xs then nestedRowsBelowPlaceholder xs.length else inlineValue printer (.array xs)
  | value => inlineValue printer value

/-- The list that is shown below, if the value is one. -/
def below (path : Text) : Json → List (Text × List Json)
  | .array xs => if shownBelow xs then [(path, xs)] else []
  | _ => []

/-- A value that is not an object takes its field, and its place below. -/
theorem flattenValue_leaf {path : Text} {value : Json} (h : isObject value = false) (flat : Flat) :
    flattenValue printer path value flat = {
      fields := SortedMap.insert path (shown printer value) flat.fields
      lists := flat.lists ++ below path value } := by
  cases value with
  | object members => cases h
  | array xs =>
    -- an array is shown inline, and once more below when its entries are objects
    unfold flattenValue shown below
    by_cases h_below : shownBelow xs = true
    · simp only [if_pos h_below]
    · simp only [if_neg h_below, List.append_nil]
  -- any other leaf is one line
  | null | bool _ | number _ _ | string _ =>
    unfold flattenValue below
    rw [List.append_nil]
    rfl

mutual

/-- A walk over a value visits its leaves in their order. -/
theorem flattenValue_eq {keys : List Text} (h_keys : keys ≠ []) : ∀ (value : Json) (flat : Flat),
    flattenValue printer (dotted keys) value flat = (leavesAt keys value).foldl
      (fun flat leaf => flattenValue printer (dotted leaf.1) leaf.2 flat) flat
  | .object members, flat => by
    have h_parent : parentOf keys = some (dotted keys) := if_neg h_keys
    have h_eq := flattenObject_eq keys members flat
    rw [h_parent] at h_eq
    exact h_eq
  | .null, _ | .bool _, _ | .number _ _, _ | .string _, _ | .array _, _ => rfl

/-- **Flattening visits the leaves**, in their order. -/
theorem flattenObject_eq (keys : List Text) : ∀ (members : List (Text × Json)) (flat : Flat),
    flattenObject printer (parentOf keys) members flat = (leavesIn keys members).foldl
      (fun flat leaf => flattenValue printer (dotted leaf.1) leaf.2 flat) flat
  | [], flat => rfl
  | (key, value) :: members, flat => by
    unfold flattenObject leavesIn
    rw [List.foldl_append, dottedPath_parentOf,
      flattenValue_eq (List.append_ne_nil_of_right_ne_nil _ (List.cons_ne_nil _ _)),
      flattenObject_eq keys members]

end

/-- What the visits leave. -/
theorem foldl_flattenValue {leaves : List (List Text × Json)}
    (h : ∀ leaf ∈ leaves, isObject leaf.2 = false) (flat : Flat) :
    leaves.foldl (fun flat leaf => flattenValue printer (dotted leaf.1) leaf.2 flat) flat = {
      fields := insertAll (leaves.map fun leaf => (dotted leaf.1, shown printer leaf.2)) flat.fields
      lists := flat.lists ++ leaves.flatMap fun leaf => below (dotted leaf.1) leaf.2 } := by
  -- the induction is on the leaves, with the lines so far
  induction leaves generalizing flat with
  | nil =>
    rw [List.flatMap_nil, List.append_nil]
    rfl
  | cons leaf leaves ih =>
    rw [List.foldl_cons, flattenValue_leaf (h leaf List.mem_cons_self),
      ih fun l h_l => h l (List.mem_cons_of_mem _ h_l), List.flatMap_cons, List.append_assoc]
    rfl

/-- A leaf of an object is at its path. -/
theorem leaf_of_mem {members : List (Text × Json)} {leaf : List Text × Json}
    (h : leaf ∈ leavesIn [] members) :
    At (.object members) leaf.1 leaf.2 ∧ isObject leaf.2 = false := by
  obtain ⟨path, value⟩ := leaf
  obtain ⟨key, inner, rest, h_mem, rfl, h_at, h_leaf⟩ := mem_leavesIn.mp h
  exact ⟨.member h_mem h_at, h_leaf⟩

/-- What is at a path and is no object is a leaf. -/
theorem mem_of_leaf {members : List (Text × Json)} {path : List Text} {value : Json}
    (h_at : At (.object members) path value) (h_leaf : isObject value = false) :
    (path, value) ∈ leavesIn [] members := by
  cases h_at with
  | here => cases h_leaf
  | member h_mem h_at => exact mem_leavesIn.mpr ⟨_, _, _, h_mem, rfl, h_at, h_leaf⟩

/-- What is shown below a table is a list of objects, under its path. -/
theorem mem_below {path path' : Text} {value : Json} {xs : List Json} :
    (path', xs) ∈ below path value ↔ value = .array xs ∧ shownBelow xs = true ∧ path' = path := by
  cases value with
  -- an array is a list of its own when it is shown below
  | array ys =>
    unfold below
    by_cases h_below : shownBelow ys = true
    · simp only [if_pos h_below]
      rw [List.mem_singleton, Prod.mk.injEq, Json.array.injEq]
      constructor
      · rintro ⟨rfl, rfl⟩
        exact ⟨rfl, h_below, rfl⟩
      · rintro ⟨rfl, -, rfl⟩
        exact ⟨rfl, rfl⟩
    · simp only [if_neg h_below]
      constructor
      · exact fun h => absurd h List.not_mem_nil
      · rintro ⟨h_eq, h_shown, -⟩
        rw [Json.array.inj h_eq] at h_below
        exact absurd h_shown h_below
  -- no other value is
  | null | bool _ | number _ _ | string _ | object _ =>
    constructor
    · exact fun h => absurd h List.not_mem_nil
    · rintro ⟨h_eq, -⟩
      cases h_eq

/-- A list of objects, as the members of each. -/
theorem eq_map_object {xs : List Json} (h : xs.all isObject = true) :
    ∃ objects : List (List (Text × Json)), xs = objects.map Json.object := by
  -- the induction is on the entries
  induction xs with
  | nil => exact ⟨[], rfl⟩
  | cons x xs ih =>
    rw [List.all_cons, Bool.and_eq_true] at h
    obtain ⟨objects, rfl⟩ := ih h.2
    -- an entry that is no object ends the search
    cases x with
    | object members => exact ⟨members :: objects, rfl⟩
    | null | bool _ | number _ _ | string _ | array _ => cases h.1

/-- A list that is shown below is shown as a list of objects. -/
theorem renderList_below {xs : List Json} (h : shownBelow xs = true) :
    (∃ objects : List (List (Text × Json)), xs = objects.map Json.object) ∧
      renderList printer xs = renderObjectList printer xs := by
  obtain ⟨h_objects, h_ne⟩ := Bool.and_eq_true_iff.mp h
  refine ⟨eq_map_object h_objects, ?_⟩
  unfold renderList
  rw [if_neg (by simpa using h_ne), if_pos h_objects]

/-- **The tables of an object.** Its fields are sorted. They are exactly the paths to what
is in it and is not an object, each with its text, and the lists below are exactly the
lists of objects in it, when no key comes twice in an object or has a dot. -/
theorem detail_table (printer : Printer) {members : List (Text × Json)}
    (h_keyed : Keyed (.object members)) :
    Sorted (flattenObject printer none members ⟨[], []⟩).fields ∧
    (∀ field text, (field, text) ∈ (flattenObject printer none members ⟨[], []⟩).fields ↔
      ∃ path value, At (.object members) path value ∧ isObject value = false ∧
        field = dotted path ∧ text = shown printer value) ∧
    (∀ path value, At (.object members) path value → isObject value = false →
      find (dotted path) (flattenObject printer none members ⟨[], []⟩).fields =
        some (shown printer value)) ∧
    (∀ field xs, (field, xs) ∈ (flattenObject printer none members ⟨[], []⟩).lists ↔
      ∃ path, At (.object members) path (.array xs) ∧ shownBelow xs = true ∧
        field = dotted path) ∧
    ∀ field xs, (field, xs) ∈ (flattenObject printer none members ⟨[], []⟩).lists →
      (∃ objects : List (List (Text × Json)), xs = objects.map Json.object) ∧
        renderList printer xs = renderObjectList printer xs := by
  have h_plain : ∀ leaf ∈ leavesIn [] members, isObject leaf.2 = false :=
    fun leaf h_leaf => (leaf_of_mem h_leaf).2
  -- the tables are built from the leaves alone
  have h_flat := @foldl_flattenValue printer _ h_plain ⟨[], []⟩
  rw [← flattenObject_eq [] members] at h_flat
  rw [show none = parentOf [] from rfl, h_flat]
  have h_sorted : Sorted (insertAll
      ((leavesIn [] members).map fun leaf => (dotted leaf.1, shown printer leaf.2)) []) :=
    Sorted.nil.insertAll
  -- no two of them have the same dotted path, so none replaces another
  have h_nodup : (((leavesIn [] members).map
      fun leaf => (dotted leaf.1, shown printer leaf.2)).map Prod.fst).Nodup := by
    rw [List.map_map]
    exact nodup_dotted h_keyed
  have h_found : ∀ path value, At (.object members) path value → isObject value = false →
      find (dotted path) (insertAll
        ((leavesIn [] members).map fun leaf => (dotted leaf.1, shown printer leaf.2)) []) =
        some (shown printer value) := fun path value h_at h_leaf =>
    (SortedMap.find_insertAll_nil h_nodup).mpr (List.mem_map_of_mem (mem_of_leaf h_at h_leaf))
  -- the lists are those leaves that are arrays, and shown below
  have h_lists : ∀ field xs, (field, xs) ∈ [] ++ (leavesIn [] members).flatMap (fun leaf =>
      below (dotted leaf.1) leaf.2) ↔ ∃ path, At (.object members) path (.array xs) ∧
        shownBelow xs = true ∧ field = dotted path := by
    intro field xs
    rw [List.nil_append, List.mem_flatMap]
    constructor
    · rintro ⟨⟨path, value⟩, h_leaf, h_below⟩
      obtain ⟨rfl, h_shown, rfl⟩ := mem_below.mp h_below
      exact ⟨path, (leaf_of_mem h_leaf).1, h_shown, rfl⟩
    · rintro ⟨path, h_at, h_shown, rfl⟩
      exact ⟨(path, .array xs), mem_of_leaf h_at rfl, mem_below.mpr ⟨rfl, h_shown, rfl⟩⟩
  refine ⟨h_sorted, fun field text => ?_, h_found, h_lists, fun field xs h_mem => ?_⟩
  · -- a row of the table is a leaf
    rw [SortedMap.mem_iff_find h_sorted, SortedMap.find_insertAll_nil h_nodup]
    constructor
    · intro h_mem
      obtain ⟨⟨path, value⟩, h_leaf, h_eq⟩ := List.mem_map.mp h_mem
      obtain ⟨rfl, rfl⟩ := Prod.mk.inj h_eq
      obtain ⟨h_at, h_plain⟩ := leaf_of_mem h_leaf
      exact ⟨path, value, h_at, h_plain, rfl, rfl⟩
    · rintro ⟨path, value, h_at, h_leaf, rfl, rfl⟩
      exact List.mem_map_of_mem (mem_of_leaf h_at h_leaf)
  · -- every list is rendered, as only such are listed
    obtain ⟨path, -, h_shown, -⟩ := (h_lists field xs).mp h_mem
    exact renderList_below h_shown

/-- A node with one channel. -/
def sampleOverview : List (Text × Json) :=
  [("source".toList, .object [("chain_key".toList, .string "0x1234".toList)]),
    ("channels".toList, .array [.object [("status".toList, .string "OPEN".toList)]]),
    ("empty".toList, .array [])]

/-- Texts of the table, without lines. -/
def plainPrinter : Printer where
  table header rows := header.flatten ++ (rows.flatMap List.flatten)
  number mantissa _ := (toString mantissa).toList
  json _ := "an object".toList

/-- The keys of the sample are distinct and plain. -/
theorem sampleOverview_keyed : Keyed (.object sampleOverview) := by
  -- the inner object has one member
  have h_leaf : ∀ key value, (key, value) ∈ [("chain_key".toList, Json.string "0x1234".toList)] →
      Keyed value := by
    intro key value h_mem
    obtain ⟨rfl, rfl⟩ := Prod.mk.inj (List.mem_singleton.mp h_mem)
    exact Keyed.leaf rfl
  refine Keyed.object (by decide) (by decide) fun key value h_mem => ?_
  simp only [sampleOverview, List.mem_cons, List.not_mem_nil, or_false, Prod.mk.injEq] at h_mem
  obtain ⟨-, rfl⟩ | ⟨-, rfl⟩ | ⟨-, rfl⟩ := h_mem
  · exact Keyed.object (by decide) (by decide) h_leaf
  · exact Keyed.leaf rfl
  · exact Keyed.leaf rfl

/-- The field of the source, and the list of channels below. -/
theorem detail_table_overview :
    find "source.chain_key".toList
        (flattenObject plainPrinter none sampleOverview ⟨[], []⟩).fields = some "0x1234".toList ∧
      find "channels".toList
        (flattenObject plainPrinter none sampleOverview ⟨[], []⟩).fields =
          some "(1 row below)".toList := by
  obtain ⟨-, -, h_found, -⟩ := detail_table plainPrinter sampleOverview_keyed
  exact ⟨h_found ["source".toList, "chain_key".toList] _
      (.member List.mem_cons_self (.member List.mem_cons_self .here)) rfl,
    h_found ["channels".toList] _ (.member (List.mem_cons_of_mem _ List.mem_cons_self) .here) rfl⟩

/-- A key with a dot takes the field of another path. -/
example : (flattenObject plainPrinter none [("a.b".toList, .null),
    ("a".toList, .object [("b".toList, .bool true)])] ⟨[], []⟩).fields =
      [("a.b".toList, "true".toList)] := by decide

end Detail

/-! ### The cells of a list -/

section List

variable {printer : Printer}

/-- The path goes through a column that lists omit. -/
def omitted (path : List Text) : Bool :=
  path.inits.any fun initial => !initial.isEmpty && omitListColumn (dotted initial)

/-- A path is omitted when a first part is, or when it is itself. -/
theorem omitted_snoc (path : List Text) (key : Text) :
    omitted (path ++ [key]) = (omitted path || omitListColumn (dotted (path ++ [key]))) := by
  have h_ne : (path ++ [key]).isEmpty = false := by simp
  rw [Bool.eq_iff_iff, Bool.or_eq_true]
  unfold omitted
  rw [List.any_eq_true, List.any_eq_true]
  constructor
  -- an initial part of the longer path is one of the path, or all of it
  · rintro ⟨initial, h_initial, h_omit⟩
    rcases List.prefix_concat_iff.mp ((List.mem_inits _ _).mp h_initial) with rfl | h_prefix
    · exact Or.inr (Bool.and_eq_true_iff.mp h_omit).2
    · exact Or.inl ⟨initial, (List.mem_inits _ _).mpr h_prefix, h_omit⟩
  · rintro (⟨initial, h_initial, h_omit⟩ | h_omit)
    · exact ⟨initial, (List.mem_inits _ _).mpr
        (((List.mem_inits _ _).mp h_initial).trans (List.prefix_append _ _)), h_omit⟩
    · refine ⟨path ++ [key], (List.mem_inits _ _).mpr (List.prefix_refl _), ?_⟩
      -- the whole path is not empty
      rw [h_ne, h_omit]
      rfl

/-- What is below an omitted path is omitted. -/
theorem omitted_append {path : List Text} (h : omitted path = true) (rest : List Text) :
    omitted (path ++ rest) = true := by
  obtain ⟨initial, h_initial, h_omit⟩ := List.any_eq_true.mp h
  exact List.any_eq_true.mpr ⟨initial, (List.mem_inits _ _).mpr
    (((List.mem_inits _ _).mp h_initial).trans (List.prefix_append _ _)), h_omit⟩

/-- The entries of the leaves that are not omitted. -/
def rowEntries (printer : Printer) (leaves : List (List Text × Json)) : List (Text × Text) :=
  (leaves.filter fun leaf => !omitted leaf.1).map fun leaf =>
    (dotted leaf.1, inlineValue printer leaf.2)

/-- The entries of a row, leaf by leaf. -/
theorem rowEntries_append (leaves leaves' : List (List Text × Json)) :
    rowEntries printer (leaves ++ leaves') =
      rowEntries printer leaves ++ rowEntries printer leaves' := by
  unfold rowEntries
  rw [List.filter_append, List.map_append]

/-- Entries are inserted one after the other. -/
theorem insertAll_append (entries entries' fields : List (Text × Text)) :
    insertAll (entries ++ entries') fields = insertAll entries' (insertAll entries fields) :=
  List.foldl_append

/-- Below an omitted column nothing is shown. -/
theorem rowEntries_omitted {keys : List Text} (h : omitted keys = true) (value : Json) :
    rowEntries printer (leavesAt keys value) = [] := by
  unfold rowEntries
  rw [List.map_eq_nil_iff, List.filter_eq_nil_iff]
  rintro ⟨path, leaf⟩ h_leaf
  obtain ⟨rest, rfl, -, -⟩ := mem_leavesAt.mp h_leaf
  rw [omitted_append h]
  decide

/-- A leaf that is not omitted. -/
theorem rowEntries_leaf {path : List Text} (h : omitted path = false) (value : Json) :
    rowEntries printer [(path, value)] = [(dotted path, inlineValue printer value)] := by
  unfold rowEntries
  rw [List.filter_cons_of_pos (by rw [h]; rfl)]
  rfl

mutual

/-- `flatten_list_row_value` inserts the leaves that are not omitted. -/
theorem flattenListRowValue_eq {parent : List Text} (h : omitted parent = false) (key : Text) :
    ∀ (value : Json) (fields : List (Text × Text)),
      flattenListRowValue printer (dotted (parent ++ [key])) value fields =
        insertAll (rowEntries printer (leavesAt (parent ++ [key]) value)) fields
  | .object members, fields => by
    have h_here := omitted_snoc parent key
    rw [h, Bool.false_or] at h_here
    have h_parent : parentOf (parent ++ [key]) = some (dotted (parent ++ [key])) :=
      if_neg (List.append_ne_nil_of_right_ne_nil _ (List.cons_ne_nil _ _))
    unfold flattenListRowValue
    -- the value is omitted, or its members follow in its place
    split
    · next h_omit =>
      rw [rowEntries_omitted (h_here.trans h_omit)]
      rfl
    · next h_omit =>
      rw [← h_parent]
      exact flattenRowMembers_eq (h_here.trans (Bool.eq_false_iff.mpr h_omit)) members fields
  | .null, fields | .bool _, fields | .number _ _, fields | .string _, fields
  | .array _, fields => by
    -- the path of the value is omitted when its parent is, or its own last key
    have h_here := omitted_snoc parent key
    rw [h, Bool.false_or] at h_here
    unfold flattenListRowValue
    split
    · next h_omit =>
      rw [rowEntries_omitted (h_here.trans h_omit)]
      rfl
    · next h_omit =>
      unfold leavesAt
      rw [rowEntries_leaf (h_here.trans (Bool.eq_false_iff.mpr h_omit))]
      rfl

/-- **A row visits the leaves** that are not omitted, in their order. -/
theorem flattenRowMembers_eq {keys : List Text} (h : omitted keys = false) :
    ∀ (members : List (Text × Json)) (fields : List (Text × Text)),
      flattenRowMembers printer (parentOf keys) members fields =
        insertAll (rowEntries printer (leavesIn keys members)) fields
  | [], fields => rfl
  | (key, value) :: members, fields => by
    unfold flattenRowMembers leavesIn
    rw [dottedPath_parentOf, flattenListRowValue_eq h, flattenRowMembers_eq h,
      rowEntries_append, insertAll_append]

end

/-- The value is in a cell of its own in the row of the object: it is at the path. -/
structure InCell (members : List (Text × Json)) (path : List Text) (value : Json) : Prop where
  at_path : At (.object members) path value
  leaf : isObject value = false
  kept : omitted path = false

/-- A row has the leaves that are not omitted. -/
theorem flattenListRow_eq (members : List (Text × Json)) :
    flattenListRow printer members [] =
      insertAll (rowEntries printer (leavesIn [] members)) [] :=
  @flattenRowMembers_eq printer [] rfl members []

/-- What a row shows in a column is in one of its cells. -/
theorem cell_of_find {members : List (Text × Json)} {column text : Text}
    (h : find column (flattenListRow printer members []) = some text) :
    ∃ path value, InCell members path value ∧ column = dotted path ∧
      text = inlineValue printer value := by
  rw [flattenListRow_eq] at h
  obtain ⟨⟨path, value⟩, h_leaf, h_eq⟩ := List.mem_map.mp (SortedMap.mem_of_find_insertAll h)
  obtain ⟨rfl, rfl⟩ := Prod.mk.inj h_eq
  obtain ⟨h_leaf, h_kept⟩ := List.mem_filter.mp h_leaf
  obtain ⟨h_at, h_plain⟩ := leaf_of_mem h_leaf
  exact ⟨path, value, ⟨h_at, h_plain, by simpa using h_kept⟩, rfl, rfl⟩

/-- In the column of a cell a row shows something. -/
theorem find_of_cell {members : List (Text × Json)} {path : List Text} {value : Json}
    (h : InCell members path value) :
    ∃ text, find (dotted path) (flattenListRow printer members []) = some text := by
  -- the leaf is on a path that is kept
  have h_leaf : (path, value) ∈ (leavesIn [] members).filter fun leaf => !omitted leaf.1 := by
    refine List.mem_filter.mpr ⟨mem_of_leaf h.at_path h.leaf, ?_⟩
    rw [h.kept]
    rfl
  -- so that it is among the entries of the row
  have h_entry : (dotted path, inlineValue printer value) ∈
      rowEntries printer (leavesIn [] members) := List.mem_map.mpr ⟨_, h_leaf, rfl⟩
  rw [flattenListRow_eq]
  exact SortedMap.mem_keys_iff.mp (SortedMap.mem_keys_insertAll.mpr
    (Or.inl (List.mem_map_of_mem h_entry)))

/-- The columns are sorted, and are the fields of the rows. -/
theorem columnsOf_spec (rows : List (List (Text × Text))) :
    (columnsOf rows).Pairwise (· < ·) ∧
    ∀ column, column ∈ columnsOf rows ↔
      ∃ fields ∈ rows, ∃ text, find column fields = some text := by
  refine ⟨Sorted.nil.insertAll, fun column => ?_⟩
  unfold columnsOf
  -- the columns are the keys of all rows, each once
  have h_keys : ((rows.flatMap fun fields => fields.map Prod.fst).map fun column =>
      (column, ())).map Prod.fst = rows.flatMap fun fields => fields.map Prod.fst := by
    rw [List.map_map]
    exact List.map_id _
  rw [SortedMap.mem_keys_insertAll, h_keys, List.mem_flatMap]
  constructor
  · -- what the fold has came from a row, since it started out empty
    rintro (⟨fields, h_fields, h_column⟩ | h_nil)
    · exact ⟨fields, h_fields, SortedMap.mem_keys_iff.mp h_column⟩
    · exact absurd h_nil List.not_mem_nil
  · rintro ⟨fields, h_fields, h_column⟩
    exact Or.inl ⟨fields, h_fields, SortedMap.mem_keys_iff.mpr h_column⟩

/-- The text in a column is that of the value at its path, or a dash where there is none. -/
def CellOf (printer : Printer) (members : List (Text × Json)) (column text : Text) : Prop :=
  (∃ path value, InCell members path value ∧ column = dotted path ∧
    text = inlineValue printer value) ∨
  (text = "-".toList ∧ ∀ path value, InCell members path value → column ≠ dotted path)

/-- **The table of a list of objects.** It has a row for each object, in their order, with
its index. The columns are sorted. They are exactly the paths to what is in one of the
objects, is not an object and is not omitted, and each cell has the text of what is there
in the object of its row, or a dash. -/
theorem list_table (printer : Printer) (objects : List (List (Text × Json))) :
    ∃ columns, (objectListTable printer (objects.map Json.object)).1 =
        "INDEX".toList :: columns ∧
      columns.Pairwise (· < ·) ∧
      (∀ column, column ∈ columns ↔
        ∃ members ∈ objects, ∃ path value, InCell members path value ∧ column = dotted path) ∧
      (objectListTable printer (objects.map Json.object)).2.length = objects.length ∧
      ∀ i members, objects[i]? = some members →
        ∃ cells, (objectListTable printer (objects.map Json.object)).2[i]? =
            some (Nat.toDigits 10 i :: cells) ∧
          List.Forall₂ (CellOf printer members) columns cells := by
  have h_rows : (objects.map Json.object).map (fun value =>
      flattenListRow printer (value.asObject.getD []) []) =
      objects.map fun members => flattenListRow printer members [] := List.map_map
  obtain ⟨h_sorted, h_columns⟩ :=
    columnsOf_spec (objects.map fun members => flattenListRow printer members [])
  unfold objectListTable
  rw [h_rows]
  refine ⟨columnsOf (objects.map fun members => flattenListRow printer members []), rfl,
    h_sorted, fun column => ?_, ?_, fun i members h_i => ?_⟩
  · -- a column exists when some row has a cell for it
    rw [h_columns]
    constructor
    · rintro ⟨fields, h_fields, text, h_found⟩
      obtain ⟨members, h_members, rfl⟩ := List.mem_map.mp h_fields
      obtain ⟨path, value, h_cell, rfl, -⟩ := cell_of_find h_found
      exact ⟨members, h_members, path, value, h_cell, rfl⟩
    · rintro ⟨members, h_members, path, value, h_cell, rfl⟩
      exact ⟨_, List.mem_map_of_mem h_members, find_of_cell h_cell⟩
  · -- a row for each object
    rw [List.length_mapIdx, List.length_map]
  · -- with a cell in each column
    refine ⟨List.map (fun column => (find column (flattenListRow printer members [])).getD
      "-".toList)
      (columnsOf (objects.map fun members => flattenListRow printer members [])), ?_, ?_⟩
    · rw [List.getElem?_mapIdx, List.getElem?_map, h_i]
      rfl
    · rw [List.forall₂_map_right_iff]
      refine List.forall₂_same.mpr fun column _ => ?_
      -- what is found in the row comes from one path; a dash says that there is none
      cases h_found : find column (flattenListRow printer members []) with
      | some text =>
        obtain ⟨path, value, h_cell, h_column, h_text⟩ := cell_of_find h_found
        exact Or.inl ⟨path, value, h_cell, h_column, h_text⟩
      | none =>
        refine Or.inr ⟨rfl, fun path value h_cell h_column => ?_⟩
        obtain ⟨text, h_some⟩ := @find_of_cell printer _ _ _ h_cell
        rw [← h_column, h_found] at h_some
        cases h_some

/-- A list with the sample shows its field in the only row. -/
theorem list_table_overview : ∃ columns,
    (objectListTable plainPrinter [Json.object sampleOverview]).1 = "INDEX".toList :: columns ∧
      "source.chain_key".toList ∈ columns := by
  obtain ⟨columns, h_header, -, h_columns, -⟩ := list_table plainPrinter [sampleOverview]
  refine ⟨columns, h_header, (h_columns _).mpr ⟨sampleOverview, List.mem_singleton.mpr rfl,
    ["source".toList, "chain_key".toList], .string "0x1234".toList, ⟨?_, rfl, by decide⟩, rfl⟩⟩
  exact .member List.mem_cons_self (.member List.mem_cons_self .here)

end List

end Blokli.Inspector
