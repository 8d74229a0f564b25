import Mathlib.Logic.Function.Basic
import BlokliClient.Document

/-!
# Connections: assembling a document, demultiplexing a response

`buildConnection` combines the subscriptions of one connection into a single
GraphQL document, in which the slot `id` owns the alias `s<id>`, and `route`
takes a response apart again by these aliases.

The type `V` stands for the decoded payloads (`Box<dyn Any + Send>`). A decoder
maps the value it is given to a payload or fails; what its error says is not
read by anything.
-/

namespace Blokli

/-- Identifier of a registered subscription slot. -/
abbrev SlotId := ℕ

/-- The document and the variables that a resumed subscription continues with. -/
structure ResumedQuery where
  document : Text
  queryVariables : Json

/-- One subscription rendered into a single-field GraphQL document. The resume
closure returns a whole spec in the source, of which only the document and the
variables are taken over. -/
structure SubscriptionSpec (V : Type) where
  document : Text
  queryVariables : Json
  decode : Json → Option V
  resume : Option (V → Option ResumedQuery)

/-- What one connection needs to know about a registered subscription. The
sender of its queue and its lag flag are those of the slot it is listed under. -/
structure SlotSnapshot (V : Type) where
  spec : SubscriptionSpec V

/-- The slots that a snapshot of one scope lists, in the order of their ids. -/
abbrev Snapshot (V : Type) := List (SlotId × SlotSnapshot V)

/-- The owner of one alias. Holding a target is holding a sender of the queue of
slot `id`. -/
structure SlotTarget (V : Type) where
  id : SlotId
  field : Text
  decode : Json → Option V

/-- One assembled SSE request and the slots that own its aliases. -/
structure Connection (V : Type) where
  body : Json
  targets : List (Text × SlotTarget V)
  resumable : Bool

variable {V : Type}

/-- `format!("s{id}")`. -/
def aliasOfSlot (id : SlotId) : Text := 's' :: Nat.toDigits 10 id

/-- Distinct slots own distinct aliases. -/
theorem aliasOfSlot_inj {id id' : SlotId} (h : aliasOfSlot id = aliasOfSlot id') : id = id' := by
  have h_digits : Nat.toDigits 10 id = Nat.toDigits 10 id' := (List.cons.inj h).2
  rw [← @Nat.ofDigitChars_ten_toDigits id, h_digits, Nat.ofDigitChars_ten_toDigits]

/-- The order of `String`s. UTF-8 orders characters by their code points. -/
def textLt : Text → Text → Bool
  | _, [] => false
  | [], _ :: _ => true
  | a :: s, b :: t => if a = b then textLt s t else decide (a < b)

/-- `BTreeMap::insert`, on the list of entries in the order of the keys. -/
def insertSorted {W : Type} (k : Text) (w : W) : List (Text × W) → List (Text × W)
  | [] => [(k, w)]
  | (k', w') :: m =>
    -- an entry of that key is replaced in place
    if k' = k then (k, w) :: m
    else if textLt k k' then (k, w) :: (k', w') :: m
    else (k', w') :: insertSorted k w m

theorem mem_insertSorted {W : Type} {k : Text} {w : W} {m : List (Text × W)} {p : Text × W}
    (h : p ∈ insertSorted k w m) : p = (k, w) ∨ p ∈ m := by
  induction m with
  | nil => exact Or.inl (List.mem_singleton.mp h)
  | cons q m ih =>
    obtain ⟨k', w'⟩ := q
    -- the three places where the entry can land
    unfold insertSorted at h
    split at h
    · rcases List.mem_cons.mp h with h | h
      · exact Or.inl h
      · exact Or.inr (List.mem_cons_of_mem _ h)
    · split at h
      · exact List.mem_cons.mp h
      · rcases List.mem_cons.mp h with h | h
        · exact Or.inr (List.mem_cons.mpr (Or.inl h))
        · exact (ih h).imp id (List.mem_cons_of_mem _)

/-- A new key adds one entry. -/
theorem insertSorted_perm {W : Type} {k : Text} (w : W) {m : List (Text × W)}
    (h : k ∉ m.map Prod.fst) : (insertSorted k w m).Perm ((k, w) :: m) := by
  induction m with
  | nil => exact List.Perm.refl _
  | cons q m ih =>
    obtain ⟨k', w'⟩ := q
    rw [List.map_cons, List.mem_cons, not_or] at h
    unfold insertSorted
    split
    -- the key is new, so nothing is replaced
    · next h_eq => exact absurd h_eq.symm h.1
    · split
      · exact List.Perm.refl _
      · exact ((ih h.2).cons _).trans (List.Perm.swap ..)

/-! ### Assembling the document -/

/-- The accumulators of the loop of `build_connection`. -/
structure Parts (V : Type) where
  definitions : List Text := []
  fields : List Text := []
  queryVariables : List (Text × Json) := []
  targets : List (Text × SlotTarget V) := []

/-- The variable definitions of one more slot, which may have none. -/
def addDefinitions (definitions : List Text) (definitionsOfSlot aliasName : Text) :
    Checked (List Text) :=
  match definitionsOfSlot with
  | [] => pure definitions
  | _ => do
    let renamed ← (renameVariables definitionsOfSlot aliasName : Option Text)
    pure (definitions ++ [renamed])

/-- One turn of the loop of `build_connection`. -/
def addSlot (parts : Parts V) (id : SlotId) (spec : SubscriptionSpec V) : Checked (Parts V) := do
  let aliasName := aliasOfSlot id
  let (definitionsOfSlot, fieldOfSlot) ← splitDocument spec.document
  let definitions ← addDefinitions parts.definitions definitionsOfSlot aliasName
  let fieldOfSlot ← (renameVariables fieldOfSlot aliasName : Option Text)
  let fieldName ← rootFieldName fieldOfSlot
  let aliased ← aliasRootField fieldOfSlot aliasName
  pure {
    definitions := definitions
    fields := parts.fields ++ [aliased]
    -- variables that are no object count as none
    queryVariables := (spec.queryVariables.asObject.getD []).foldl
      (fun m p => insertMember (aliasName ++ ['_'] ++ p.1) p.2 m) parts.queryVariables
    targets := insertSorted aliasName
      { id := id, field := fieldName, decode := spec.decode } parts.targets }

def addSlots (parts : Parts V) : Snapshot V → Checked (Parts V)
  | [] => pure parts
  | (id, entry) :: slots => do
    let parts ← addSlot parts id entry.spec
    addSlots parts slots

/-- `[Text]::join(", ")`. -/
def joinComma : List Text → Text
  | [] => []
  | [t] => t
  | t :: ts => t ++ ", ".toList ++ joinComma ts

def combinedOperationName : Text := "BlokliSubscriptions".toList

/-- The combined subscription document. -/
def Parts.document (parts : Parts V) : Text :=
  match parts.definitions with
  | [] => "subscription ".toList ++ combinedOperationName ++ " \x7b".toList ++
      parts.fields.flatten ++ "\x7d".toList
  | _ => "subscription ".toList ++ combinedOperationName ++ "(".toList ++
      joinComma parts.definitions ++ ") \x7b".toList ++ parts.fields.flatten ++ "\x7d".toList

/-- Assembles the combined subscription document and the alias map of one
connection. -/
def buildConnection (slots : Snapshot V) : Checked (Connection V) := do
  -- the loop comes first: an error of any slot leaves no connection
  let parts ← addSlots {} slots
  pure {
    body := .object [("query".toList, .string parts.document),
      ("variables".toList, .object parts.queryVariables)]
    targets := parts.targets
    resumable := slots.any fun p => p.2.spec.resume.isSome }

/-! ### What the targets of a connection are -/

/-- A slot adds one target, under its alias and with its decoder. -/
theorem addSlot_targets {parts parts' : Parts V} {id : SlotId} {spec : SubscriptionSpec V}
    (h : (addSlot parts id spec).run = some (.ok parts')) : ∃ field, parts'.targets =
      insertSorted (aliasOfSlot id) { id := id, field := field, decode := spec.decode }
        parts.targets := by
  unfold addSlot at h
  obtain ⟨⟨definitions, field⟩, -, h⟩ := checked_bind_ok.mp h
  obtain ⟨definitions', -, h⟩ := checked_bind_ok.mp h
  obtain ⟨field', -, h⟩ := checked_bind_ok.mp h
  obtain ⟨fieldName, -, h⟩ := checked_bind_ok.mp h
  obtain ⟨aliased, -, h⟩ := checked_bind_ok.mp h
  obtain rfl := Except.ok.inj (Option.some.inj h)
  exact ⟨fieldName, rfl⟩

/-- The targets are filed under the aliases of their slots. -/
def Aliased (targets : List (Text × SlotTarget V)) : Prop :=
  ∀ p ∈ targets, p.1 = aliasOfSlot p.2.id

/-- **The loop over the slots.** It adds the slots of the snapshot, each under
its alias and with its decoder. -/
theorem addSlots_targets {slots : Snapshot V} {parts parts' : Parts V}
    (h : (addSlots parts slots).run = some (.ok parts')) (h_alias : Aliased parts.targets)
    (h_nodup : (slots.map Prod.fst ++ parts.targets.map fun p => p.2.id).Nodup) :
    Aliased parts'.targets ∧
      (parts'.targets.map fun p => p.2.id).Perm
        (slots.map Prod.fst ++ parts.targets.map fun p => p.2.id) ∧
      ∀ p ∈ parts'.targets, p ∈ parts.targets ∨
        ∃ q ∈ slots, q.1 = p.2.id ∧ p.2.decode = q.2.spec.decode := by
  induction slots generalizing parts with
  -- nothing left to add
  | nil =>
    obtain rfl := Except.ok.inj (Option.some.inj h)
    exact ⟨h_alias, List.Perm.refl _, fun p hp => Or.inl hp⟩
  | cons q slots ih =>
    obtain ⟨id, entry⟩ := q
    obtain ⟨parts₁, h₁, h₂⟩ := checked_bind_ok.mp h
    obtain ⟨field, h_targets⟩ := addSlot_targets h₁
    -- no other slot has this alias, or it would be this slot
    have h_fresh : aliasOfSlot id ∉ parts.targets.map Prod.fst := by
      intro h_mem
      obtain ⟨p, hp, h_eq⟩ := List.mem_map.mp h_mem
      refine (List.nodup_cons.mp h_nodup).1 (List.mem_append_right _ (List.mem_map.mpr ⟨p, hp, ?_⟩))
      exact aliasOfSlot_inj ((h_alias p hp).symm.trans h_eq)
    -- so that its target is one more
    have h_perm : parts₁.targets.Perm
        ((aliasOfSlot id, { id := id, field := field, decode := entry.spec.decode }) ::
          parts.targets) := by
      rw [h_targets]
      exact insertSorted_perm _ h_fresh
    have h_ids : (parts₁.targets.map fun p => p.2.id).Perm
        (id :: parts.targets.map fun p => p.2.id) := h_perm.map _
    have h_alias₁ : Aliased parts₁.targets := fun p hp => by
      rcases List.mem_cons.mp (h_perm.mem_iff.mp hp) with rfl | hp
      · rfl
      · exact h_alias p hp
    have h_total : (slots.map Prod.fst ++ parts₁.targets.map fun p => p.2.id).Perm
        (id :: slots.map Prod.fst ++ parts.targets.map fun p => p.2.id) :=
      (h_ids.append_left _).trans List.perm_middle
    -- the rest of the snapshot adds its own
    obtain ⟨h_alias', h_perm', h_from⟩ := ih h₂ h_alias₁ (h_total.nodup_iff.mpr h_nodup)
    refine ⟨h_alias', h_perm'.trans h_total, fun p hp => ?_⟩
    -- a target is this slot's, an older one, or a later slot's
    rcases h_from p hp with h_old | ⟨q, hq, h_q⟩
    · rcases List.mem_cons.mp (h_perm.mem_iff.mp h_old) with rfl | h_old
      · exact Or.inr ⟨(id, entry), List.mem_cons_self, rfl, rfl⟩
      · exact Or.inl h_old
    · exact Or.inr ⟨q, List.mem_cons_of_mem _ hq, h_q⟩

namespace Connection

/-- The slots of the connection, in the order of their aliases. -/
def slotTargets (c : Connection V) : List (SlotTarget V) := c.targets.map Prod.snd

/-- The ids of the slots of the connection. -/
def ids (c : Connection V) : List SlotId := c.slotTargets.map SlotTarget.id

/-- `by_id` of `dispatch`. -/
def byId (c : Connection V) (id : SlotId) : Option (SlotTarget V) :=
  c.slotTargets.find? fun target => target.id == id

end Connection

/-- **The targets of a connection** are the slots of its snapshot, each under its
alias and with its decoder. -/
theorem buildConnection_targets {slots : Snapshot V} {connection : Connection V}
    (h : (buildConnection slots).run = some (.ok connection))
    (h_nodup : (slots.map Prod.fst).Nodup) :
    Aliased connection.targets ∧ connection.ids.Perm (slots.map Prod.fst) ∧
      ∀ p ∈ connection.targets, ∃ q ∈ slots, q.1 = p.2.id ∧ p.2.decode = q.2.spec.decode := by
  obtain ⟨parts, h_parts, h⟩ := checked_bind_ok.mp h
  obtain rfl := Except.ok.inj (Option.some.inj h)
  -- the accumulators start out empty
  obtain ⟨h_alias, h_perm, h_from⟩ := addSlots_targets h_parts
    (fun _ hp => absurd hp List.not_mem_nil) (by simpa using h_nodup)
  refine ⟨h_alias, ?_, fun p hp => (h_from p hp).resolve_left List.not_mem_nil⟩
  change ((parts.targets.map Prod.snd).map SlotTarget.id).Perm _
  rw [List.map_map]
  exact (List.append_nil (slots.map Prod.fst)) ▸ h_perm

/-! ### Demultiplexing a response -/

/-- What one decoded response asks the hub to deliver. -/
structure Routed where
  payloads : List (SlotId × Json)
  slotErrors : List (SlotId × List GraphQlError)
  documentErrors : List GraphQlError

/-- The alias an error belongs to: the first segment of its path. -/
def aliasOf (error : GraphQlError) : Option Text :=
  -- a path that starts with an index, or none at all, belongs to no alias
  match error.path with
  | some (.field aliasName :: _) => some aliasName
  | _ => none

/-- `slot_errors.entry(id).or_default().push(error)`, on the list of entries in
the order of the ids. -/
def pushError (id : SlotId) (error : GraphQlError) :
    List (SlotId × List GraphQlError) → List (SlotId × List GraphQlError)
  | [] => [(id, [error])]
  -- the errors of one slot keep their order
  | (id', es) :: m =>
    if id' = id then (id', es ++ [error]) :: m
    else if id < id' then (id, [error]) :: (id', es) :: m
    else (id', es) :: pushError id error m

/-- The loop over the errors of a response. -/
def sortErrors (targets : List (Text × SlotTarget V)) : List GraphQlError →
    List (SlotId × List GraphQlError) × List GraphQlError →
    List (SlotId × List GraphQlError) × List GraphQlError
  | [], acc => acc
  | error :: errors, (slotErrors, documentErrors) =>
    -- an alias that no target has goes with the errors of the document
    match (aliasOf error).bind fun aliasName => lookup aliasName targets with
    | some target => sortErrors targets errors
        (pushError target.id error slotErrors, documentErrors)
    | none => sortErrors targets errors (slotErrors, documentErrors ++ [error])

/-- The loop over the members of the data of a response: the payloads, and the
slot errors that no payload overrides. -/
def sortPayloads (targets : List (Text × SlotTarget V)) : List (Text × Json) →
    List (SlotId × List GraphQlError) →
    List (SlotId × Json) × List (SlotId × List GraphQlError)
  | [], slotErrors => ([], slotErrors)
  | (aliasName, payload) :: members, slotErrors =>
    match lookup aliasName targets with
    -- data under an unknown alias is skipped
    | none => sortPayloads targets members slotErrors
    | some target =>
      -- a null next to errors is the failed field itself
      if payload.isNull && (lookup target.id slotErrors).isSome then
        sortPayloads targets members slotErrors
      else
        -- a payload that is not null wins over the errors of its slot
        let slotErrors :=
          if payload.isNull then slotErrors else slotErrors.filter fun p => p.1 != target.id
        let (payloads, slotErrors) := sortPayloads targets members slotErrors
        ((target.id, .object [(target.field, payload)]) :: payloads, slotErrors)

/-- Splits a decoded response into per-subscription payloads and errors. `none`
is a frame that carries neither data nor errors. -/
def route (response : GraphQlResponse) (targets : List (Text × SlotTarget V)) : Option Routed :=
  let payloadsByAlias :=
    match response.data with
    | some (.object members) => some members
    | some _ => none
    | none => some []
  match payloadsByAlias with
  | none => none
  | some members =>
    let errors := response.errors.getD []
    if members.isEmpty && errors.isEmpty then none
    else
      let (slotErrors, documentErrors) := sortErrors targets errors ([], [])
      let (payloads, slotErrors) := sortPayloads targets members slotErrors
      some { payloads := payloads, slotErrors := slotErrors, documentErrors := documentErrors }

end Blokli
