import Mathlib.Data.List.Nodup
import BlokliClient.Connection

/-!
# Demultiplexing is exact

`route` takes a response apart by the aliases of one connection. The two loops
have an equation each, from which `route_exact` reads off what happens to every
member of the data and to every error:

* `sortErrors` files the errors of each slot in order, and keeps the rest in
  order (`sortErrors_files`, `sortErrors_documents`);
* `sortPayloads` hands out the payload of every alias but a null next to errors,
  and drops the errors of the slots whose payload is not null
  (`sortPayloads_payloads`, `sortPayloads_slotErrors`).
-/

namespace Blokli

variable {V : Type} {targets : List (Text × SlotTarget V)}

/-- The slot that an error belongs to. -/
def ownerOf (targets : List (Text × SlotTarget V)) (error : GraphQlError) : Option SlotId :=
  ((aliasOf error).bind fun aliasName => lookup aliasName targets).map SlotTarget.id

/-- The errors of one slot. -/
def errorsOf (targets : List (Text × SlotTarget V)) (errors : List GraphQlError) (id : SlotId) :
    List GraphQlError :=
  errors.filter fun error => ownerOf targets error = some id

/-! ### The loop over the errors -/

/-- `m` lists the non-empty ones among the lists `f id`, in the order of the ids. -/
structure Files (m : List (SlotId × List GraphQlError)) (f : SlotId → List GraphQlError) :
    Prop where
  ascending : (m.map Prod.fst).Pairwise (· < ·)
  entries : ∀ id, lookup id m = if f id = [] then none else some (f id)

/-- Every slot has one file. -/
theorem Files.nodup {m : List (SlotId × List GraphQlError)} {f : SlotId → List GraphQlError}
    (h : Files m f) : (m.map Prod.fst).Nodup :=
  h.ascending.imp Nat.ne_of_lt

/-- Filing an error opens the file of its slot at most. -/
theorem mem_pushError_keys {id id' : SlotId} {error : GraphQlError}
    {m : List (SlotId × List GraphQlError)} (h : id' ∈ (pushError id error m).map Prod.fst) :
    id' = id ∨ id' ∈ m.map Prod.fst := by
  induction m with
  | nil => exact Or.inl (List.mem_singleton.mp h)
  | cons p m ih =>
    unfold pushError at h
    split at h
    · exact Or.inr h
    · split at h
      · exact List.mem_cons.mp h
      · rcases List.mem_cons.mp h with h | h
        · exact Or.inr (List.mem_cons.mpr (Or.inl h))
        · exact (ih h).imp_right (List.mem_cons_of_mem _)

/-- The files stay sorted. -/
theorem pushError_ascending {id : SlotId} {error : GraphQlError}
    {m : List (SlotId × List GraphQlError)} (h : (m.map Prod.fst).Pairwise (· < ·)) :
    ((pushError id error m).map Prod.fst).Pairwise (· < ·) := by
  induction m with
  | nil => exact List.pairwise_singleton _ _
  | cons p m ih =>
    obtain ⟨id', es⟩ := p
    obtain ⟨h_first, h_rest⟩ := List.pairwise_cons.mp h
    unfold pushError
    -- the id has an entry already, comes before the first, or belongs further behind
    split
    · exact h
    · split
      · next h_lt =>
        refine List.pairwise_cons.mpr ⟨fun x hx => ?_, h⟩
        rcases List.mem_cons.mp hx with rfl | hx
        · exact h_lt
        · exact Nat.lt_trans h_lt (h_first x hx)
      · next h_ne h_le =>
        refine List.pairwise_cons.mpr ⟨fun x hx => ?_, ih h_rest⟩
        rcases mem_pushError_keys hx with rfl | hx
        · exact Nat.lt_of_le_of_ne (Nat.le_of_not_lt h_le) h_ne
        · exact h_first x hx

/-- **An error is filed behind those of its slot.** -/
theorem lookup_pushError {m : List (SlotId × List GraphQlError)}
    (h : (m.map Prod.fst).Pairwise (· < ·)) (id id' : SlotId) (error : GraphQlError) :
    lookup id' (pushError id error m) =
      if id = id' then some ((lookup id m).getD [] ++ [error]) else lookup id' m := by
  induction m with
  | nil => rfl
  | cons p m ih =>
    obtain ⟨id₁, es⟩ := p
    obtain ⟨h_first, h_rest⟩ := List.pairwise_cons.mp h
    unfold pushError
    split
    · next h_eq =>
      rw [lookup_cons, lookup_cons, lookup_cons, h_eq, if_pos rfl]
      split <;> rfl
    · next h_ne =>
      split
      · next h_lt =>
        -- the id is below every key, so it has no entry yet
        have h_none : lookup id ((id₁, es) :: m) = none := by
          refine lookup_eq_none_iff.mpr fun h_mem => ?_
          rcases List.mem_cons.mp h_mem with h_eq | h_mem
          · exact h_ne h_eq.symm
          · exact absurd (h_first id h_mem) (Nat.not_lt.mpr (Nat.le_of_lt h_lt))
        rw [h_none, lookup_cons]
        rfl
      · rw [lookup_cons, lookup_cons, lookup_cons, ih h_rest, if_neg h_ne]
        split
        · next h_eq =>
          subst h_eq
          exact (if_neg fun h_eq => h_ne h_eq.symm).symm
        · rfl

/-- Pushing an error extends the list of its slot. -/
theorem Files.push {m : List (SlotId × List GraphQlError)} {f : SlotId → List GraphQlError}
    (h : Files m f) (id : SlotId) (error : GraphQlError) :
    Files (pushError id error m) (Function.update f id (f id ++ [error])) where
  ascending := pushError_ascending h.ascending
  entries id' := by
    rw [lookup_pushError h.ascending]
    by_cases h_id : id = id'
    · subst h_id
      have h_old : (lookup id m).getD [] = f id := by
        rw [h.entries id]
        split
        · next h_nil => exact h_nil.symm
        · rfl
      rw [if_pos rfl, Function.update_self, h_old]
      exact (if_neg (List.append_ne_nil_of_right_ne_nil _ (List.cons_ne_nil _ _))).symm
    · rw [if_neg h_id, Function.update_of_ne (fun h_eq => h_id h_eq.symm), h.entries id']

/-- The errors without a slot, in order. -/
theorem sortErrors_documents (errors : List GraphQlError)
    (acc : List (SlotId × List GraphQlError) × List GraphQlError) :
    (sortErrors targets errors acc).2 =
      acc.2 ++ errors.filter fun error => (ownerOf targets error).isNone := by
  induction errors generalizing acc with
  | nil => exact (List.append_nil _).symm
  | cons error errors ih =>
    unfold sortErrors
    -- an error with an owner is not one of the document
    cases h : (aliasOf error).bind fun aliasName => lookup aliasName targets with
    | some target =>
      have h_owner : (ownerOf targets error).isNone = false := by
        unfold ownerOf
        rw [h]
        rfl
      rw [List.filter_cons, h_owner]
      exact ih _
    | none =>
      have h_owner : (ownerOf targets error).isNone = true := by
        unfold ownerOf
        rw [h]
        rfl
      rw [List.filter_cons, if_pos h_owner]
      exact (ih _).trans (List.append_cons _ _ _).symm

/-- The errors of a slot, one after the other. -/
theorem errorsOf_cons (error : GraphQlError) (errors : List GraphQlError) (id : SlotId) :
    errorsOf targets (error :: errors) id =
      if ownerOf targets error = some id then error :: errorsOf targets errors id
      else errorsOf targets errors id := by
  unfold errorsOf
  rw [List.filter_cons]
  simp only [decide_eq_true_eq]

/-- The errors of each slot, in order. -/
theorem sortErrors_files (errors : List GraphQlError)
    {slotErrors : List (SlotId × List GraphQlError)} (documentErrors : List GraphQlError)
    {f : SlotId → List GraphQlError} (h_acc : Files slotErrors f) :
    Files (sortErrors targets errors (slotErrors, documentErrors)).1
      fun id => f id ++ errorsOf targets errors id := by
  induction errors generalizing slotErrors documentErrors f with
  | nil =>
    have h_nil : (fun id => f id ++ errorsOf targets [] id) = f :=
      funext fun id => List.append_nil (f id)
    rw [h_nil]
    exact h_acc
  | cons error errors ih =>
    unfold sortErrors
    cases h : (aliasOf error).bind fun aliasName => lookup aliasName targets with
    -- the error is filed under its owner, behind those already there
    | some target =>
      have h_owner : ownerOf targets error = some target.id := by
        unfold ownerOf
        rw [h]
        rfl
      have h_split : (fun id => f id ++ errorsOf targets (error :: errors) id) = fun id =>
          Function.update f target.id (f target.id ++ [error]) id ++
            errorsOf targets errors id := by
        funext id
        rw [errorsOf_cons, h_owner]
        by_cases h_id : target.id = id
        · rw [h_id, if_pos rfl, Function.update_self, List.append_cons]
        · rw [if_neg fun h_eq => h_id (Option.some.inj h_eq),
            Function.update_of_ne fun h_eq => h_id h_eq.symm]
      rw [h_split]
      exact ih documentErrors (h_acc.push target.id error)
    -- no owner: it goes to the document errors, and no list changes
    | none =>
      have h_owner : ownerOf targets error = none := by
        unfold ownerOf
        rw [h]
        rfl
      have h_skip : ∀ id, errorsOf targets (error :: errors) id = errorsOf targets errors id := by
        intro id
        rw [errorsOf_cons, h_owner]
        rfl
      simp only [h_skip]
      exact ih (documentErrors ++ [error]) h_acc

/-! ### The loop over the data -/

/-- A payload of slot `id` that is not null is among the members of the data. -/
def overrides (targets : List (Text × SlotTarget V)) (members : List (Text × Json))
    (id : SlotId) : Bool :=
  members.any fun p => !p.2.isNull && decide ((lookup p.1 targets).map SlotTarget.id = some id)

/-- What the member `p` of the data asks to deliver, next to the slot errors `m`. -/
def payloadOf (targets : List (Text × SlotTarget V)) (m : List (SlotId × List GraphQlError))
    (p : Text × Json) : Option (SlotId × Json) :=
  match lookup p.1 targets with
  | none => none
  | some target =>
    if p.2.isNull && (lookup target.id m).isSome then none
    else some (target.id, .object [(target.field, p.2)])

/-- A payload that is not null drops the errors of its slot, and nothing else does. -/
theorem sortPayloads_slotErrors (members : List (Text × Json))
    (m : List (SlotId × List GraphQlError)) :
    (sortPayloads targets members m).2 = m.filter fun p => !overrides targets members p.1 := by
  induction members generalizing m with
  | nil => exact (List.filter_eq_self.mpr fun _ _ => rfl).symm
  | cons member members ih =>
    obtain ⟨aliasName, payload⟩ := member
    have h_cons : ∀ id, overrides targets ((aliasName, payload) :: members) id =
        (!payload.isNull && decide ((lookup aliasName targets).map SlotTarget.id = some id) ||
          overrides targets members id) := fun id => List.any_cons
    simp only [h_cons]
    unfold sortPayloads
    cases h : lookup aliasName targets with
    -- an alias that is no target changes nothing
    | none =>
      simp only [Option.map_none, reduceCtorEq, decide_false, Bool.and_false, Bool.false_or]
      exact ih m
    | some target =>
      simp only [Option.map_some, Option.some.injEq]
      cases h_null : payload.isNull with
      | true =>
        -- a null leaves the errors alone, whether it is handed out or not
        simp only [Bool.not_true, Bool.false_and, Bool.false_or, Bool.true_and, if_true]
        split
        · exact ih m
        · exact ih m
      -- any other payload drops the errors of its slot
      | false =>
        simp only [Bool.not_false, Bool.true_and, Bool.false_and, Bool.false_eq_true, if_false]
        refine (ih _).trans ?_
        rw [List.filter_filter]
        refine List.filter_congr fun p _ => ?_
        have h_eq : (p.1 == target.id) = decide (target.id = p.1) :=
          decide_eq_decide.mpr ⟨Eq.symm, Eq.symm⟩
        rw [Bool.not_or, Bool.and_comm, bne, h_eq]

/-- Distinct aliases belong to distinct slots. -/
def SlotsDistinct (targets : List (Text × SlotTarget V)) : Prop :=
  (targets.map fun p => p.2.id).Nodup

theorem SlotsDistinct.alias_eq {targets : List (Text × SlotTarget V)} (h : SlotsDistinct targets)
    {aliasName aliasName' : Text} {target target' : SlotTarget V}
    (h₁ : lookup aliasName targets = some target) (h₂ : lookup aliasName' targets = some target')
    (h_id : target.id = target'.id) : aliasName = aliasName' := by
  have h_inj := List.inj_on_of_nodup_map h (mem_of_lookup h₁) (mem_of_lookup h₂) h_id
  exact congrArg Prod.fst h_inj

/-- **The payloads of a response.** Every member asks for its payload as if it
were alone, and they are handed out in the order of the members. -/
theorem sortPayloads_payloads (h_slots : SlotsDistinct targets) {members : List (Text × Json)}
    (h_keys : (members.map Prod.fst).Nodup) (m : List (SlotId × List GraphQlError)) :
    (sortPayloads targets members m).1 = members.filterMap (payloadOf targets m) := by
  induction members generalizing m with
  | nil => rfl
  | cons member members ih =>
    obtain ⟨aliasName, payload⟩ := member
    obtain ⟨h_fresh, h_rest⟩ := List.nodup_cons.mp h_keys
    rw [List.filterMap_cons]
    unfold sortPayloads
    cases h : lookup aliasName targets with
    | none =>
      have h_one : payloadOf targets m (aliasName, payload) = none := by
        unfold payloadOf
        rw [h]
      rw [h_one]
      exact ih h_rest m
    -- the alias of a target
    | some target =>
      have h_one : payloadOf targets m (aliasName, payload) =
          if payload.isNull && (lookup target.id m).isSome then none
          else some (target.id, .object [(target.field, payload)]) := by
        unfold payloadOf
        rw [h]
      rw [h_one]
      -- a null is handed out only where no error was filed
      cases h_null : payload.isNull with
      | true =>
        simp only [Bool.true_and, if_true]
        cases (lookup target.id m).isSome with
        | true => exact ih h_rest m
        | false => exact congrArg _ (ih h_rest m)
      | false =>
        simp only [Bool.false_and, Bool.false_eq_true, if_false]
        refine congrArg _ ((ih h_rest _).trans (List.filterMap_congr fun p hp => ?_))
        -- the errors that were dropped are those of another slot
        unfold payloadOf
        cases h' : lookup p.1 targets with
        | none => rfl
        | some target' =>
          have h_other : target'.id ≠ target.id := fun h_id => by
            have h_alias : p.1 = aliasName := h_slots.alias_eq h' h h_id
            exact h_fresh (List.mem_map.mpr ⟨p, hp, h_alias⟩)
          simp only [lookup_filter_ne, if_neg h_other]

/-! ### The whole response -/

/-- The members of the data of a response. -/
def GraphQlResponse.members (response : GraphQlResponse) : List (Text × Json) :=
  match response.data with
  | some (.object members) => members
  | _ => []

theorem GraphQlResponse.members_nodup (response : GraphQlResponse) :
    (response.members.map Prod.fst).Nodup := by
  unfold members
  split
  · next members h => exact response.keysDistinct members h
  · exact List.nodup_nil

/-- Data that is present but not an object is malformed. -/
theorem route_of_not_object {response : GraphQlResponse} {data : Json}
    (h : response.data = some data) (h_data : data.asObject = none) :
    route response targets = none := by
  unfold route
  rw [h]
  cases data with
  | object members => cases h_data
  | _ => rfl

/-- Otherwise the members of the data and the errors are sorted, unless there are none. -/
theorem route_of_object {response : GraphQlResponse}
    (h : ∀ data, response.data = some data → data.asObject ≠ none) :
    route response targets =
      let sorted := sortErrors targets (response.errors.getD []) ([], [])
      if response.members.isEmpty && (response.errors.getD []).isEmpty then none
      else some
        { payloads := (sortPayloads targets response.members sorted.1).1
          slotErrors := (sortPayloads targets response.members sorted.1).2
          documentErrors := sorted.2 } := by
  unfold route GraphQlResponse.members
  cases h_data : response.data with
  | none => rfl
  | some data =>
    cases data with
    | object members => rfl
    | _ => exact absurd rfl (h _ h_data)

/-- The errors of a slot are those whose path starts at its alias. -/
theorem errorsOf_eq (h_slots : SlotsDistinct targets) {aliasName : Text} {target : SlotTarget V}
    (h : lookup aliasName targets = some target) (errors : List GraphQlError) :
    errorsOf targets errors target.id = errors.filter fun e => aliasOf e = some aliasName := by
  refine List.filter_congr fun error _ => decide_eq_decide.mpr ?_
  unfold ownerOf
  constructor
  · intro h_owner
    obtain ⟨target', h_target, h_id⟩ := Option.map_eq_some_iff.mp h_owner
    obtain ⟨aliasName', h_alias, h'⟩ := Option.bind_eq_some_iff.mp h_target
    rw [h_alias, h_slots.alias_eq h' h h_id]
  · intro h_alias
    rw [h_alias, Option.bind_some, h]
    rfl

/-- An error has no slot when no alias starts its path. -/
theorem ownerOf_isNone (error : GraphQlError) : (ownerOf targets error).isNone =
    !targets.any fun p => decide (aliasOf error = some p.1) := by
  rw [Bool.eq_iff_iff, Option.isNone_iff_eq_none, Bool.not_eq_true', List.any_eq_false]
  unfold ownerOf
  rw [Option.map_eq_none_iff, Option.bind_eq_none_iff]
  constructor
  · intro h p hp h_alias
    have h_none : lookup p.1 targets = none := h p.1 (of_decide_eq_true h_alias)
    exact lookup_eq_none_iff.mp h_none (List.mem_map_of_mem hp)
  · intro h aliasName h_alias
    refine lookup_eq_none_iff.mpr fun h_mem => ?_
    obtain ⟨p, hp, h_eq⟩ := List.mem_map.mp h_mem
    exact h p hp (decide_eq_true (h_eq ▸ h_alias))

theorem payloadOf_eq_some {m : List (SlotId × List GraphQlError)} {p : Text × Json}
    {id : SlotId} {value : Json} : payloadOf targets m p = some (id, value) ↔
      ∃ target, lookup p.1 targets = some target ∧
        (p.2.isNull = true → lookup target.id m = none) ∧
        id = target.id ∧ value = .object [(target.field, p.2)] := by
  unfold payloadOf
  cases h : lookup p.1 targets with
  | none =>
    constructor
    · -- nothing is handed out for an alias that is no target
      intro h
      cases h
    · rintro ⟨_, h, _⟩
      cases h
  | some target =>
    -- for a target the null is what is checked
    simp only [Option.some.injEq, exists_eq_left']
    split
    · next h_skip =>
      obtain ⟨h_null, h_some⟩ := Bool.and_eq_true_iff.mp h_skip
      constructor
      · intro h
        cases h
      · rintro ⟨h_none, -⟩
        rw [h_none h_null] at h_some
        cases h_some
    · next h_hand =>
      rw [Option.some.injEq, Prod.mk.injEq]
      constructor
      · rintro ⟨rfl, rfl⟩
        refine ⟨fun h_null => ?_, rfl, rfl⟩
        rw [h_null, Bool.true_and, Bool.not_eq_true, Option.isSome_eq_false_iff,
          Option.isNone_iff_eq_none] at h_hand
        exact h_hand
      · rintro ⟨-, rfl, rfl⟩
        exact ⟨rfl, rfl⟩

theorem overrides_eq_true {members : List (Text × Json)} {id : SlotId} :
    overrides targets members id = true ↔ ∃ p ∈ members, p.2.isNull = false ∧
      ∃ target, lookup p.1 targets = some target ∧ target.id = id := by
  unfold overrides
  rw [List.any_eq_true]
  simp only [Bool.and_eq_true, Bool.not_eq_true', decide_eq_true_eq, Option.map_eq_some_iff]

/-- The errors of a slot stand when its member, if any, is null. -/
theorem overrides_eq_false (h_slots : SlotsDistinct targets) (members : List (Text × Json))
    {aliasName : Text} {target : SlotTarget V} (h : lookup aliasName targets = some target) :
    overrides targets members target.id = false ↔
      ∀ payload, (aliasName, payload) ∈ members → payload.isNull = true := by
  rw [← Bool.not_eq_true, overrides_eq_true]
  constructor
  · intro h_none payload h_mem
    by_contra h_null
    exact h_none ⟨(aliasName, payload), h_mem, Bool.not_eq_true _ ▸ h_null, target, h, rfl⟩
  · rintro h_all ⟨⟨aliasName', payload⟩, h_mem, h_null, target', h', h_id⟩
    obtain rfl := h_slots.alias_eq h' h h_id
    rw [h_all payload h_mem] at h_null
    cases h_null

/-- No slot gets two payloads of one response. -/
theorem payloads_nodup (h_slots : SlotsDistinct targets) {members : List (Text × Json)}
    (h_members : (members.map Prod.fst).Nodup) (m : List (SlotId × List GraphQlError)) :
    ((members.filterMap (payloadOf targets m)).map Prod.fst).Nodup := by
  refine List.pairwise_map.mpr (List.pairwise_filterMap.mpr ?_)
  refine (List.pairwise_map.mp h_members).imp fun {p p'} h_ne => ?_
  rintro ⟨id, value⟩ h ⟨id', value'⟩ h' h_id
  obtain ⟨target, h_target, -, rfl, -⟩ := payloadOf_eq_some.mp h
  obtain ⟨target', h_target', -, rfl, -⟩ := payloadOf_eq_some.mp h'
  exact h_ne (h_slots.alias_eq h_target h_target' h_id)

/-- What a routed response carries, given the members of its data and its errors. -/
structure Demultiplexed (targets : List (Text × SlotTarget V)) (members : List (Text × Json))
    (errors : List GraphQlError) (routed : Routed) : Prop where
  /-- A payload is the member of a registered alias, under the field of its slot; a null
  next to errors of that alias is none. -/
  payloads : ∀ id value, (id, value) ∈ routed.payloads ↔
    ∃ aliasName target payload, (aliasName, target) ∈ targets ∧
      (aliasName, payload) ∈ members ∧
      (payload.isNull = true → ∀ error ∈ errors, aliasOf error ≠ some aliasName) ∧
      id = target.id ∧ value = .object [(target.field, payload)]
  payloads_once : (routed.payloads.map Prod.fst).Nodup
  /-- The errors of a slot are those of its alias, in order, unless a payload that is not
  null discards them. -/
  slotErrors : ∀ id es, (id, es) ∈ routed.slotErrors ↔
    ∃ aliasName target, (aliasName, target) ∈ targets ∧ id = target.id ∧
      es = errors.filter (fun error => aliasOf error = some aliasName) ∧ es ≠ [] ∧
      ∀ payload, (aliasName, payload) ∈ members → payload.isNull = true
  slotErrors_once : (routed.slotErrors.map Prod.fst).Nodup
  /-- All other errors concern the document, in order. -/
  documentErrors : routed.documentErrors =
    errors.filter fun error => !targets.any fun p => decide (aliasOf error = some p.1)
  disjoint : ∀ id ∈ routed.payloads.map Prod.fst, id ∉ routed.slotErrors.map Prod.fst

/-- No payload next to the errors of its slot, except one that discards them. -/
theorem Files.lookup_eq_none {errors : List GraphQlError}
    {m : List (SlotId × List GraphQlError)} (h : Files m (errorsOf targets errors))
    (h_slots : SlotsDistinct targets) {aliasName : Text} {target : SlotTarget V}
    (h_target : lookup aliasName targets = some target) :
    lookup target.id m = none ↔ ∀ error ∈ errors, aliasOf error ≠ some aliasName := by
  have h_nil : errorsOf targets errors target.id = [] ↔
      ∀ error ∈ errors, aliasOf error ≠ some aliasName := by
    rw [errorsOf_eq h_slots h_target, List.filter_eq_nil_iff]
    simp only [decide_eq_true_eq, ne_eq]
  rw [h.entries, ← h_nil]
  split
  · next h_eq => exact ⟨fun _ => h_eq, fun _ => rfl⟩
  · next h_ne => exact ⟨fun h => (by cases h), fun h_eq => absurd h_eq h_ne⟩

/-- The files are the errors of the slots that have any. -/
theorem Files.mem_iff {errors : List GraphQlError} {m : List (SlotId × List GraphQlError)}
    (h : Files m (errorsOf targets errors)) (h_slots : SlotsDistinct targets) (id : SlotId)
    (es : List GraphQlError) : (id, es) ∈ m ↔
      ∃ aliasName target, lookup aliasName targets = some target ∧ id = target.id ∧
        es = errors.filter (fun error => aliasOf error = some aliasName) ∧ es ≠ [] := by
  rw [← lookup_eq_some_iff h.nodup, h.entries]
  constructor
  · intro h_entry
    split at h_entry
    · cases h_entry
    · next h_ne =>
      obtain rfl := Option.some.inj h_entry
      obtain ⟨error, h_error⟩ := List.exists_mem_of_ne_nil _ h_ne
      have h_owner : ownerOf targets error = some id :=
        of_decide_eq_true (List.mem_filter.mp h_error).2
      obtain ⟨target, h_target, h_id⟩ := Option.map_eq_some_iff.mp h_owner
      obtain ⟨aliasName, -, h_lookup⟩ := Option.bind_eq_some_iff.mp h_target
      subst h_id
      exact ⟨aliasName, target, h_lookup, rfl, errorsOf_eq h_slots h_lookup errors, h_ne⟩
  · rintro ⟨aliasName, target, h_lookup, rfl, h_es, h_ne⟩
    rw [errorsOf_eq h_slots h_lookup errors, ← h_es, if_neg h_ne]

/-- Sorting errors and payloads by their slots demultiplexes the response. -/
theorem sorted_demultiplexed (h_keys : (targets.map Prod.fst).Nodup)
    (h_slots : SlotsDistinct targets) {members : List (Text × Json)}
    (h_members : (members.map Prod.fst).Nodup) (errors : List GraphQlError)
    {slotErrors : List (SlotId × List GraphQlError)} {documentErrors : List GraphQlError}
    (h : sortErrors targets errors ([], []) = (slotErrors, documentErrors)) :
    Demultiplexed targets members errors
      { payloads := (sortPayloads targets members slotErrors).1
        slotErrors := (sortPayloads targets members slotErrors).2
        documentErrors := documentErrors } := by
  have h_files : Files slotErrors (errorsOf targets errors) := by
    have h_empty : Files [] fun _ => [] := ⟨List.Pairwise.nil, fun _ => rfl⟩
    have h_all : Files (sortErrors targets errors ([], [])).1 _ :=
      sortErrors_files errors [] h_empty
    rw [h] at h_all
    exact h_all
  have h_payloads := sortPayloads_payloads h_slots h_members slotErrors
  have h_slotErrors : (sortPayloads targets members slotErrors).2 = _ :=
    sortPayloads_slotErrors members slotErrors
  refine ⟨fun id value => ?_, ?_, fun id es => ?_, ?_, ?_, ?_⟩
  · -- payloads: each is that of a member, under the alias of its slot
    simp only [h_payloads, List.mem_filterMap, payloadOf_eq_some]
    constructor
    · rintro ⟨⟨aliasName, payload⟩, h_mem, target, h_target, h_null, h_eq⟩
      refine ⟨aliasName, target, payload, mem_of_lookup h_target, h_mem, fun h_isNull => ?_, h_eq⟩
      exact (h_files.lookup_eq_none h_slots h_target).mp (h_null h_isNull)
    · rintro ⟨aliasName, target, payload, h_target, h_mem, h_null, h_eq⟩
      have h_lookup := (lookup_eq_some_iff h_keys).mpr h_target
      refine ⟨(aliasName, payload), h_mem, target, h_lookup, fun h_isNull => ?_, h_eq⟩
      exact (h_files.lookup_eq_none h_slots h_lookup).mpr (h_null h_isNull)
  · -- no slot gets two
    simp only [h_payloads]
    exact payloads_nodup h_slots h_members slotErrors
  · -- errors: those of a slot, none of which were overridden
    simp only [h_slotErrors, List.mem_filter, h_files.mem_iff h_slots, Bool.not_eq_true']
    constructor
    · rintro ⟨⟨aliasName, target, h_lookup, rfl, h_es, h_ne⟩, h_over⟩
      exact ⟨aliasName, target, mem_of_lookup h_lookup, rfl, h_es, h_ne,
        (overrides_eq_false h_slots members h_lookup).mp h_over⟩
    · rintro ⟨aliasName, target, h_target, rfl, h_es, h_ne, h_all⟩
      have h_lookup := (lookup_eq_some_iff h_keys).mpr h_target
      exact ⟨⟨aliasName, target, h_lookup, rfl, h_es, h_ne⟩,
        (overrides_eq_false h_slots members h_lookup).mpr h_all⟩
  · -- each slot once
    rw [h_slotErrors]
    exact h_files.nodup.sublist (List.filter_sublist.map _)
  · -- the others are those of the document
    have h_documents : (sortErrors targets errors ([], [])).2 = _ :=
      sortErrors_documents errors ([], [])
    rw [h] at h_documents
    simp only [ownerOf_isNone] at h_documents
    exact h_documents
  · -- a payload that is handed out discarded the errors, or there were none
    intro id h_payload h_error
    simp only [h_payloads, h_slotErrors] at h_payload h_error
    obtain ⟨⟨id₁, value⟩, h_value, rfl⟩ := List.mem_map.mp h_payload
    obtain ⟨⟨id₂, es⟩, h_es, h_id⟩ := List.mem_map.mp h_error
    obtain ⟨p, h_p, h_some⟩ := List.mem_filterMap.mp h_value
    obtain ⟨target, h_target, h_null, rfl, -⟩ := payloadOf_eq_some.mp h_some
    obtain ⟨h_mem, h_over⟩ := List.mem_filter.mp h_es
    obtain rfl : id₂ = target.id := h_id
    have h_isNull : p.2.isNull = true :=
      (overrides_eq_false h_slots members h_target).mp (Bool.not_eq_true' _ ▸ h_over) p.2 h_p
    have h_none : lookup target.id slotErrors = none := h_null h_isNull
    rw [(lookup_eq_some_iff h_files.nodup).mpr h_mem] at h_none
    cases h_none

/-- **What is routed is demultiplexed.** -/
theorem demultiplexed_of_route (h_keys : (targets.map Prod.fst).Nodup)
    (h_slots : SlotsDistinct targets) {response : GraphQlResponse} {routed : Routed}
    (h : route response targets = some routed) :
    Demultiplexed targets response.members (response.errors.getD []) routed := by
  by_cases h_object : ∀ data, response.data = some data → data.asObject ≠ none
  · rw [route_of_object h_object] at h
    dsimp only at h
    split at h
    · cases h
    · obtain rfl := Option.some.inj h
      exact sorted_demultiplexed h_keys h_slots response.members_nodup _ rfl
  · simp only [not_forall, ne_eq, not_not] at h_object
    obtain ⟨data, h_data, h_none⟩ := h_object
    rw [route_of_not_object h_data h_none] at h
    cases h

/-- **`route` is an exact demultiplexer.** -/
theorem route_exact (response : GraphQlResponse) (targets : List (Text × SlotTarget V))
    (h_keys : (targets.map Prod.fst).Nodup) (h_slots : SlotsDistinct targets) :
    (route response targets = none ↔
      (∃ data, response.data = some data ∧ data.asObject = none) ∨
        response.members = [] ∧ response.errors.getD [] = []) ∧
    ∀ routed, route response targets = some routed →
      Demultiplexed targets response.members (response.errors.getD []) routed := by
  refine ⟨?_, fun routed h_routed => demultiplexed_of_route h_keys h_slots h_routed⟩
  -- data that is no object cannot be routed, whatever the errors
  by_cases h : ∀ data, response.data = some data → data.asObject ≠ none
  · have h_object : ¬∃ data, response.data = some data ∧ data.asObject = none :=
      fun ⟨data, h_data, h_none⟩ => h data h_data h_none
    have h_empty : (response.members.isEmpty && (response.errors.getD []).isEmpty) = true ↔
        response.members = [] ∧ response.errors.getD [] = [] := by
      rw [Bool.and_eq_true, List.isEmpty_iff, List.isEmpty_iff]
    rw [route_of_object h]
    simp only [h_empty]
    -- an object can, unless the frame is empty altogether
    split
    · next h_nil => exact ⟨fun _ => Or.inr h_nil, fun _ => rfl⟩
    · next h_some =>
      refine ⟨fun h_none => (by cases h_none), fun h_or => ?_⟩
      exact absurd h_or (not_or.mpr ⟨h_object, h_some⟩)
  · simp only [not_forall, ne_eq, not_not] at h
    obtain ⟨data, h_data, h_none⟩ := h
    rw [route_of_not_object h_data h_none]
    exact ⟨fun _ => Or.inl ⟨data, h_data, h_none⟩, fun _ => rfl⟩

/-- Slots 0 and 1, as `build_connection` files them. -/
def twoTargets : List (Text × SlotTarget Json) :=
  [("s0".toList, { id := 0, field := "accountUpdated".toList, decode := some }),
    ("s1".toList, { id := 1, field := "accountUpdated".toList, decode := some })]

/-- Slot 0 failed in part, slot 1 failed. -/
def partialFailure : GraphQlResponse where
  data := some (.object [("s0".toList, .number 9 0), ("s1".toList, .null)])
  errors := some [
    { message := "partial failure".toList
      path := some [.field "s0".toList, .field "keyid".toList] },
    { message := "slot failed".toList, path := some [.field "s1".toList] }]
  keysDistinct := by
    intro members h
    obtain rfl := Json.object.inj (Option.some.inj h)
    decide

theorem route_exact_partial_failure : ∃ routed, route partialFailure twoTargets = some routed ∧
    Demultiplexed twoTargets partialFailure.members (partialFailure.errors.getD []) routed := by
  have h_exact := route_exact partialFailure twoTargets
    (by decide) (by unfold SlotsDistinct; decide)
  exact ⟨_, rfl, h_exact.2 _ rfl⟩

end Blokli
