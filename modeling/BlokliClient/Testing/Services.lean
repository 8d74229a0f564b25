import BlokliClient.Library.Replay
import BlokliClient.Testing.Client

/-!
# The service subscriptions of the in-memory client

Folding the items of `subscribe_services`, and of `subscribe_service_types`, gives
after each transaction what the query with the same selector returns.

* A service entry is identified by its service type and the address of its node,
  however that is spelled (`entryId`). With the documented keys, two entries have one
  key exactly when they have one identity (`BlokliTestState.Keyed.key_eq_iff`).
* The updates of one transaction agree with the new state on every identity that
  they mention, and the states agree on the others (`Announces`); the replay of the
  updates therefore follows the state.
-/

namespace Blokli.Testing

open Replay

/-! ### Streams and their folds -/

def Event.asService : Event → Option ServiceUpdate
  | .service update => some update
  | _ => none

def Event.asServiceType : Event → Option ServiceTypeUpdate
  | .serviceType update => some update
  | _ => none

/-- The items of `subscribe_services`: the initial part, and the events received. -/
def subscribeServices (state : BlokliTestState) (selector : ServiceSelector)
    (events : List Event) : List ServiceUpdate :=
  ((state.queryServices selector).map registeredService ++
    events.filterMap Event.asService).filter (serviceUpdateMatches selector)

/-- The items of `subscribe_service_types`. -/
def subscribeServiceTypes (state : BlokliTestState) (serviceType : Option ServiceTypeId)
    (events : List Event) : List ServiceTypeUpdate :=
  ((state.queryServiceTypes serviceType).map registeredServiceType ++
    events.filterMap Event.asServiceType).filter (serviceTypeUpdateMatches serviceType)

/-- These are the items of the streams of the concurrent client. -/
theorem items_services (state : BlokliTestState) (selector : ServiceSelector)
    (accounts : IndexMap UInt32 Account) (events : List Event) :
    ((Subscription.services selector).initialPart state ++ events.filterMap fun event =>
      ((Subscription.services selector).livePart accounts event).map .ok) =
      (subscribeServices state selector events).map fun update => .ok (.serviceUpdate update) := by
  unfold subscribeServices
  rw [List.filter_append, List.map_append]
  refine congrArg _ (filterMap_livePart (fun event => ?_) events)
  cases event with
  -- only a service update passes the filter of the channel
  | service update =>
    change (if serviceUpdateMatches selector update then some (Item.serviceUpdate update)
      else none) = (Option.filter _ (some update)).map _
    rw [Option.filter_some]
    split <;> rfl
  | account | channel | ticketParameters | safe | serviceType | serviceRegistryConfig => rfl

/-- The items of the service type stream of the concurrent client. -/
theorem items_serviceTypes (state : BlokliTestState) (serviceType : Option ServiceTypeId)
    (accounts : IndexMap UInt32 Account) (events : List Event) :
    ((Subscription.serviceTypes serviceType).initialPart state ++ events.filterMap fun event =>
      ((Subscription.serviceTypes serviceType).livePart accounts event).map .ok) =
      (subscribeServiceTypes state serviceType events).map
        fun update => .ok (.serviceTypeUpdate update) := by
  unfold subscribeServiceTypes
  rw [List.filter_append, List.map_append]
  refine congrArg _ (filterMap_livePart (fun event => ?_) events)
  cases event with
  -- only an update of a service type passes the filter of the channel
  | serviceType update =>
    change (if serviceTypeUpdateMatches serviceType update then
      some (Item.serviceTypeUpdate update) else none) = (Option.filter _ (some update)).map _
    rw [Option.filter_some]
    split <;> rfl
  | account | channel | ticketParameters | safe | service | serviceRegistryConfig => rfl

/-- The identity of a registry entry: its service type, and the digits of its node. -/
def entryId (serviceType node : Text) : Text × Text :=
  (serviceType, (Hex.trimHex node).map Char.toLower)

def idOfEntry (entry : ServiceEntry) : Text × Text := entryId entry.serviceType entry.node

def idOfUpdate (update : ServiceUpdate) : Text × Text := entryId update.serviceType update.node

/-- The entry that an update leaves: none when it was deregistered. -/
def outcome (update : ServiceUpdate) : Option ServiceEntry :=
  match update.kind with
  | .deregistered => none
  | _ => update.entry

/-- Inserts or replaces on registrations and updates, removes on deregistrations. -/
def foldServices (updates : List ServiceUpdate) : IndexMap (Text × Text) ServiceEntry :=
  replay idOfUpdate outcome ∅ updates

def idOfType (info : ServiceTypeInfo) : Option Text := some info.serviceType

/-- Inserts or replaces the configuration of the type. -/
def foldServiceTypes (updates : List ServiceTypeUpdate) : IndexMap (Option Text) ServiceTypeInfo :=
  replay ServiceTypeUpdate.serviceType ServiceTypeUpdate.config ∅ updates

/-! ### Keys -/

/-- Services are keyed by `service_entry_key` of their own type and node, service
types by their own type. -/
structure BlokliTestState.Keyed (state : BlokliTestState) : Prop where
  services : ∀ key entry, ⟨key, entry⟩ ∈ state.services.entries →
    ∃ node : ChainAddress, Hex.hexMatches entry.node node.toList = true ∧
      key = serviceEntryKey entry.serviceType node
  serviceTypes : ∀ key info, ⟨key, info⟩ ∈ state.serviceTypes.entries → key = info.serviceType

/-- One entry for each key. -/
theorem IndexMap.entry_unique {κ α : Type} {m : IndexMap κ α} {k : κ} {v v' : α}
    (h : ⟨k, v⟩ ∈ m.entries) (h' : ⟨k, v'⟩ ∈ m.entries) : v = v' := by
  classical
  have h_v := AList.mem_lookup_iff.mpr h
  have h_v' := AList.mem_lookup_iff.mpr h'
  exact Option.some.inj (h_v.symm.trans h_v')

/-- The key of an entry is a key of the map. -/
theorem IndexMap.mem_of_entry {κ α : Type} {m : IndexMap κ α} {k : κ} {v : α}
    (h : ⟨k, v⟩ ∈ m.entries) : k ∈ m := List.mem_map.mpr ⟨_, h, rfl⟩

/-- A key of the map has an entry. -/
theorem IndexMap.exists_entry {κ α : Type} {m : IndexMap κ α} {k : κ} (h : k ∈ m) :
    ∃ v, ⟨k, v⟩ ∈ m.entries := by
  obtain ⟨⟨k', v⟩, h_mem, rfl⟩ := List.mem_map.mp h
  exact ⟨v, h_mem⟩

/-- A hex address has no `/`, and all addresses are equally long. -/
theorem serviceEntryKey_inj {serviceType serviceType' : Text} {node node' : ChainAddress} :
    serviceEntryKey serviceType node = serviceEntryKey serviceType' node' ↔
      serviceType = serviceType' ∧ node.encodeHex = node'.encodeHex := by
  unfold serviceEntryKey
  constructor
  · intro h
    -- the digits of two nodes are as long as each other, so the slash stands at the same place
    have h_length : ('/' :: node.encodeHex).length = ('/' :: node'.encodeHex).length := by
      rw [List.length_cons, List.length_cons]
      unfold Bytes.encodeHex
      rw [Hex.length_encodeHex, Hex.length_encodeHex, node.size, node'.size]
    -- what is in front of the last 41 characters is the type
    obtain ⟨h_type, h_node⟩ := List.append_inj' h h_length
    exact ⟨h_type, (List.cons.inj h_node).2⟩
  · rintro ⟨rfl, h_node⟩
    rw [h_node]

/-- **Keys are identities.** -/
theorem BlokliTestState.Keyed.key_eq_iff {state state' : BlokliTestState} (h : state.Keyed)
    (h' : state'.Keyed) {key key' : Text} {entry entry' : ServiceEntry}
    (h_entry : ⟨key, entry⟩ ∈ state.services.entries)
    (h_entry' : ⟨key', entry'⟩ ∈ state'.services.entries) :
    key = key' ↔ idOfEntry entry = idOfEntry entry' := by
  obtain ⟨node, h_node, rfl⟩ := h.services key entry h_entry
  obtain ⟨node', h_node', rfl⟩ := h'.services key' entry' h_entry'
  rw [serviceEntryKey_inj]
  unfold idOfEntry entryId
  rw [Hex.hexMatches_iff.mp h_node, Hex.hexMatches_iff.mp h_node', Prod.mk.injEq]
  rfl

/-- A selector sees the identity only. -/
theorem serviceMatches_congr {serviceType serviceType' node node' : Text}
    (h : entryId serviceType node = entryId serviceType' node') (selector : ServiceSelector) :
    serviceMatches serviceType node selector = serviceMatches serviceType' node' selector := by
  obtain ⟨rfl, h_node⟩ := Prod.mk.inj h
  -- what a node is compared with is its trimmed text in lower case
  have h_hex : ∀ wanted : ChainAddress,
      Hex.hexMatches node wanted.toList = Hex.hexMatches node' wanted.toList := by
    intro wanted
    rw [Bool.eq_iff_iff, Hex.hexMatches_iff, Hex.hexMatches_iff, h_node]
  cases selector with
  | serviceType wanted => rfl
  | node wanted => exact h_hex wanted
  | serviceTypeAndNode wantedType wantedNode =>
    exact congrArg (serviceTypeMatches serviceType wantedType && ·) (h_hex wantedNode)
  | any => rfl

/-- The query returns the entries of the map that match. -/
theorem mem_queryServices {state : BlokliTestState} {selector : ServiceSelector}
    {entry : ServiceEntry} : entry ∈ state.queryServices selector ↔
      (∃ key, ⟨key, entry⟩ ∈ state.services.entries) ∧
        serviceMatches entry.serviceType entry.node selector = true := by
  unfold BlokliTestState.queryServices
  rw [List.mem_filter, IndexMap.mem_values]

/-- What the query for service types returns. -/
theorem mem_queryServiceTypes {state : BlokliTestState} {serviceType : Option ServiceTypeId}
    {info : ServiceTypeInfo} : info ∈ state.queryServiceTypes serviceType ↔
      (∃ key, ⟨key, info⟩ ∈ state.serviceTypes.entries) ∧
        (serviceType.all fun wanted => serviceTypeMatches info.serviceType wanted) = true := by
  unfold BlokliTestState.queryServiceTypes
  rw [List.mem_filter, IndexMap.mem_values]

/-- In a keyed registry no two entries have one id. -/
theorem nodup_queryServices {state : BlokliTestState} (h : state.Keyed)
    (selector : ServiceSelector) : ((state.queryServices selector).map idOfEntry).Nodup := by
  have h_sublist : ((state.queryServices selector).map idOfEntry).Sublist
      (state.services.entries.map fun entry => idOfEntry entry.2) := by
    have h_filter : (state.queryServices selector).Sublist state.services.values :=
      List.filter_sublist
    have h_map := h_filter.map idOfEntry
    unfold IndexMap.values at h_map
    rwa [List.map_map] at h_map
  refine h_sublist.nodup ?_
  -- entries with the same identity have the same key, and keys are distinct
  refine List.Nodup.map_on (fun a h_a b h_b h_id => ?_) state.services.nodupKeys.nodup
  obtain ⟨key, entry⟩ := a
  obtain ⟨key', entry'⟩ := b
  obtain rfl := (h.key_eq_iff h h_a h_b).mpr h_id
  rw [IndexMap.entry_unique h_a h_b]

/-- In a keyed registry no two service types have one name. -/
theorem nodup_queryServiceTypes {state : BlokliTestState} (h : state.Keyed)
    (serviceType : Option ServiceTypeId) :
    ((state.queryServiceTypes serviceType).map idOfType).Nodup := by
  -- what a query returns is a part of the map, which holds no key twice
  have h_sublist : ((state.queryServiceTypes serviceType).map idOfType).Sublist
      (state.serviceTypes.entries.map fun entry => idOfType entry.2) := by
    have h_filter : (state.queryServiceTypes serviceType).Sublist state.serviceTypes.values :=
      List.filter_sublist
    have h_map := h_filter.map idOfType
    unfold IndexMap.values at h_map
    rwa [List.map_map] at h_map
  refine h_sublist.nodup ?_
  -- a key is read off its entry, so entries that agree on it are one
  refine List.Nodup.map_on (fun a h_a b h_b h_id => ?_) state.serviceTypes.nodupKeys.nodup
  obtain ⟨key, info⟩ := a
  obtain ⟨key', info'⟩ := b
  have h_key := h.serviceTypes key info h_a
  have h_key' := h.serviceTypes key' info' h_b
  obtain rfl : key = key' := by
    rw [h_key, h_key']
    exact Option.some.inj h_id
  rw [IndexMap.entry_unique h_a h_b]

/-! ### The changes of one transaction -/

section Changes

variable {oldState state : BlokliTestState} {selector : ServiceSelector}
  {serviceType : Option ServiceTypeId}

/-- Where an update comes from: an entry that is gone, or one that is new or changed. -/
theorem mem_serviceChanges {update : ServiceUpdate}
    (h : update ∈ serviceChanges oldState state) :
    (∃ key entry, ⟨key, entry⟩ ∈ oldState.services.entries ∧ key ∉ state.services ∧
      idOfUpdate update = idOfEntry entry ∧ outcome update = none) ∨
    ∃ key entry, ⟨key, entry⟩ ∈ state.services.entries ∧
      idOfUpdate update = idOfEntry entry ∧ outcome update = some entry := by
  unfold serviceChanges at h
  rcases List.mem_append.mp h with h | h
  · -- a deregistration
    obtain ⟨⟨key, entry⟩, h_entry, h_update⟩ := List.mem_filterMap.mp h
    dsimp only at h_update
    split at h_update
    · cases h_update
    · next h_gone =>
      obtain rfl := Option.some.inj h_update
      exact Or.inl ⟨key, entry, h_entry, h_gone, rfl, rfl⟩
  · -- a registration, or an update of an entry that was there
    obtain ⟨⟨key, entry⟩, h_entry, h_update⟩ := List.mem_filterMap.mp h
    dsimp only at h_update
    split at h_update
    · obtain rfl := Option.some.inj h_update
      exact Or.inr ⟨key, entry, h_entry, rfl, rfl⟩
    · split at h_update
      · obtain rfl := Option.some.inj h_update
        exact Or.inr ⟨key, entry, h_entry, rfl, rfl⟩
      · cases h_update

/-- An entry that is gone is announced. -/
theorem deregistration_mem {key : Text} {entry : ServiceEntry}
    (h_entry : ⟨key, entry⟩ ∈ oldState.services.entries) (h_gone : key ∉ state.services) :
    ∃ update ∈ serviceChanges oldState state, idOfUpdate update = idOfEntry entry := by
  refine ⟨_, List.mem_append_left _ (List.mem_filterMap.mpr ⟨_, h_entry, if_neg h_gone⟩), rfl⟩

/-- An entry that is new or changed is announced. -/
theorem registration_mem {key : Text} {entry : ServiceEntry}
    (h_entry : ⟨key, entry⟩ ∈ state.services.entries)
    (h_new : ⟨key, entry⟩ ∉ oldState.services.entries) :
    ∃ update ∈ serviceChanges oldState state, idOfUpdate update = idOfEntry entry := by
  unfold serviceChanges
  -- the key is new, or has another entry
  cases h_old : oldState.services.lookup key with
  | none =>
    refine ⟨registeredService entry,
      List.mem_append_right _ (List.mem_filterMap.mpr ⟨_, h_entry, ?_⟩), rfl⟩
    dsimp only
    rw [h_old]
    rfl
  | some old =>
    have h_ne : old ≠ entry := by
      -- the lookup found the old entry, which is not the new one
      rintro rfl
      exact h_new (AList.mem_lookup_iff.mp h_old)
    refine ⟨{ registeredService entry with kind := .updated },
      List.mem_append_right _ (List.mem_filterMap.mpr ⟨_, h_entry, ?_⟩), rfl⟩
    dsimp only
    rw [h_old]
    exact if_pos h_ne

/-- A selector sees an update when it sees the entry. -/
theorem updateMatches_of_id {update : ServiceUpdate} {entry : ServiceEntry}
    (h : idOfUpdate update = idOfEntry entry) :
    serviceUpdateMatches selector update =
      serviceMatches entry.serviceType entry.node selector := serviceMatches_congr h selector

/-- **Services follow one transaction.** -/
theorem lookup_services (h_old : oldState.Keyed) (h_new : state.Keyed)
    {m : IndexMap (Text × Text) ServiceEntry}
    (h : ∀ k, m.lookup k = index idOfEntry (oldState.queryServices selector) k) (k : Text × Text) :
    (replay idOfUpdate outcome m
        ((serviceChanges oldState state).filter (serviceUpdateMatches selector))).lookup k =
      index idOfEntry (state.queryServices selector) k := by
  refine lookup_replay_of_changes h (fun update h_update => ?_) (fun k h_silent => ?_) k
  · -- an update leaves what the new state has
    obtain ⟨h_mem, h_match⟩ := List.mem_filter.mp h_update
    rcases mem_serviceChanges h_mem with ⟨key, entry, h_entry, h_gone, h_id, h_outcome⟩ |
      ⟨key, entry, h_entry, h_id, h_outcome⟩
    -- a deregistered key has no entry with this identity in the new state
    · rw [h_outcome]
      refine (Option.eq_none_iff_forall_not_mem.mpr fun entry' h_entry' => ?_).symm
      obtain ⟨h_query, h_id'⟩ := (index_eq_some (nodup_queryServices h_new selector)).mp h_entry'
      obtain ⟨⟨key', h_entry'⟩, -⟩ := mem_queryServices.mp h_query
      obtain rfl := (h_old.key_eq_iff h_new h_entry h_entry').mpr (h_id.symm.trans h_id'.symm)
      exact h_gone (IndexMap.mem_of_entry h_entry')
    · rw [h_outcome]
      refine ((index_eq_some (nodup_queryServices h_new selector)).mpr ⟨?_, h_id.symm⟩).symm
      rw [updateMatches_of_id h_id] at h_match
      exact mem_queryServices.mpr ⟨⟨key, h_entry⟩, h_match⟩
  · -- an identity without an update has the same entry in both states
    have h_none : ∀ update ∈ serviceChanges oldState state, ∀ entry,
        serviceMatches entry.serviceType entry.node selector = true → idOfEntry entry = k →
        idOfUpdate update ≠ idOfEntry entry := by
      intro update h_update entry h_match h_id h_eq
      refine h_silent update (List.mem_filter.mpr ⟨h_update, ?_⟩) (h_eq.trans h_id)
      rw [updateMatches_of_id h_eq]
      exact h_match
    refine index_congr (nodup_queryServices h_old selector) (nodup_queryServices h_new selector)
      fun entry h_id => ?_
    rw [mem_queryServices, mem_queryServices]
    refine and_congr_left fun h_match => ?_
    constructor
    · -- an entry of the old state: its key has another entry now, or none, or the same
      rintro ⟨key, h_entry⟩
      by_cases h_key : key ∈ state.services
      · obtain ⟨entry', h_entry'⟩ := IndexMap.exists_entry h_key
        by_cases h_same : ⟨key, entry'⟩ ∈ oldState.services.entries
        · rw [IndexMap.entry_unique h_entry h_same]
          exact ⟨key, h_entry'⟩
        · obtain ⟨update, h_update, h_eq⟩ := registration_mem h_entry' h_same
          have h_ids := (h_old.key_eq_iff h_new h_entry h_entry').mp rfl
          exact absurd (h_eq.trans h_ids.symm) (h_none update h_update entry h_match h_id)
      · obtain ⟨update, h_update, h_eq⟩ := deregistration_mem h_entry h_key
        exact absurd h_eq (h_none update h_update entry h_match h_id)
    · -- an entry of the new state: it was there, or is registered by an update
      rintro ⟨key, h_entry⟩
      by_cases h_same : ⟨key, entry⟩ ∈ oldState.services.entries
      · exact ⟨key, h_same⟩
      · obtain ⟨update, h_update, h_eq⟩ := registration_mem h_entry h_same
        exact absurd h_eq (h_none update h_update entry h_match h_id)

/-- A change carries the service type as it is now. -/
theorem mem_serviceTypeChanges {update : ServiceTypeUpdate}
    (h : update ∈ serviceTypeChanges oldState state) :
    ∃ key info, ⟨key, info⟩ ∈ state.serviceTypes.entries ∧
      update.serviceType = idOfType info ∧ update.config = some info := by
  unfold serviceTypeChanges at h
  obtain ⟨⟨key, info⟩, h_entry, h_update⟩ := List.mem_flatMap.mp h
  obtain ⟨kind, -, rfl⟩ := List.mem_map.mp h_update
  exact ⟨key, info, h_entry, rfl, rfl⟩

/-- Two configurations of one type differ in a field that has a kind of change. -/
theorem serviceTypeKinds_ne_nil {old new : ServiceTypeInfo}
    (h_type : old.serviceType = new.serviceType) (h_ne : old ≠ new) :
    serviceTypeKinds old new ≠ [] := by
  -- each kind that is missing is a field that stayed the same
  intro h_nil
  have h_none := List.filterMap_eq_nil_iff.mp h_nil
  refine h_ne ?_
  cases old
  cases new
  simp only [List.mem_cons, List.not_mem_nil, or_false, id, forall_eq_or_imp, forall_eq,
    ite_eq_right_iff, reduceCtorEq, imp_false, not_not] at h_none
  -- the type is the same as well, so that nothing differs
  obtain ⟨rfl, rfl, rfl, rfl⟩ := h_none
  cases h_type
  rfl

/-- A configuration that is new or changed is announced. -/
theorem typeChange_mem (h_old : oldState.Keyed) (h_new : state.Keyed) {key : Text}
    {info : ServiceTypeInfo} (h_entry : ⟨key, info⟩ ∈ state.serviceTypes.entries)
    (h_change : ⟨key, info⟩ ∉ oldState.serviceTypes.entries) :
    ∃ update ∈ serviceTypeChanges oldState state, update.serviceType = idOfType info := by
  let update (kind : ServiceTypeUpdateKind) : ServiceTypeUpdate := {
    kind := kind
    serviceType := some info.serviceType
    config := some info
    registryConfig := none }
  -- a new type is registered; a known one has changed in one of its parts
  cases h_lookup : oldState.serviceTypes.lookup key with
  | none =>
    refine ⟨update .registered, List.mem_flatMap.mpr ⟨_, h_entry, ?_⟩, rfl⟩
    rw [h_lookup]
    exact List.mem_singleton_self _
  | some old =>
    have h_mem := AList.mem_lookup_iff.mp h_lookup
    -- an entry that differs differs in a field that has a kind
    have h_kinds : serviceTypeKinds old info ≠ [] := by
      apply serviceTypeKinds_ne_nil
      · rw [← h_old.serviceTypes key old h_mem, ← h_new.serviceTypes key info h_entry]
      · rintro rfl
        exact h_change h_mem
    -- one of these kinds is announced
    obtain ⟨kind, h_kind⟩ := List.exists_mem_of_ne_nil _ h_kinds
    refine ⟨update kind, List.mem_flatMap.mpr ⟨_, h_entry, ?_⟩, rfl⟩
    rw [h_lookup]
    exact List.mem_map.mpr ⟨kind, h_kind, rfl⟩

/-- A filter sees an update when it sees the configuration. -/
theorem typeUpdateMatches_of_id {update : ServiceTypeUpdate} {info : ServiceTypeInfo}
    (h : update.serviceType = idOfType info) :
    serviceTypeUpdateMatches serviceType update =
      serviceType.all fun wanted => serviceTypeMatches info.serviceType wanted := by
  unfold serviceTypeUpdateMatches
  rw [h]
  rfl

/-- **Service types follow one transaction** that removes none. -/
theorem lookup_serviceTypes (h_old : oldState.Keyed) (h_new : state.Keyed)
    (h_keep : ∀ key ∈ oldState.serviceTypes, key ∈ state.serviceTypes)
    {m : IndexMap (Option Text) ServiceTypeInfo}
    (h : ∀ k, m.lookup k = index idOfType (oldState.queryServiceTypes serviceType) k)
    (k : Option Text) :
    (replay ServiceTypeUpdate.serviceType ServiceTypeUpdate.config m
        ((serviceTypeChanges oldState state).filter
          (serviceTypeUpdateMatches serviceType))).lookup k =
      index idOfType (state.queryServiceTypes serviceType) k := by
  refine lookup_replay_of_changes h (fun update h_update => ?_) (fun k h_silent => ?_) k
  · -- an update leaves what the new state has
    obtain ⟨h_mem, h_match⟩ := List.mem_filter.mp h_update
    obtain ⟨key, info, h_entry, h_id, h_config⟩ := mem_serviceTypeChanges h_mem
    rw [h_config]
    refine ((index_eq_some (nodup_queryServiceTypes h_new serviceType)).mpr ⟨?_, h_id.symm⟩).symm
    rw [typeUpdateMatches_of_id h_id] at h_match
    exact mem_queryServiceTypes.mpr ⟨⟨key, h_entry⟩, h_match⟩
  · -- a type without an update has the same info in both states
    have h_none : ∀ update ∈ serviceTypeChanges oldState state, ∀ info,
        (serviceType.all fun wanted => serviceTypeMatches info.serviceType wanted) = true →
        idOfType info = k → update.serviceType ≠ idOfType info := by
      intro update h_update info h_match h_id h_eq
      refine h_silent update (List.mem_filter.mpr ⟨h_update, ?_⟩) (h_eq.trans h_id)
      rw [typeUpdateMatches_of_id h_eq]
      exact h_match
    refine index_congr (nodup_queryServiceTypes h_old serviceType)
      (nodup_queryServiceTypes h_new serviceType) fun info h_id => ?_
    rw [mem_queryServiceTypes, mem_queryServiceTypes]
    refine and_congr_left fun h_match => ?_
    constructor
    · -- no type is removed, so the key still has an info
      rintro ⟨key, h_entry⟩
      obtain ⟨info', h_entry'⟩ := IndexMap.exists_entry (h_keep key (IndexMap.mem_of_entry h_entry))
      by_cases h_same : ⟨key, info'⟩ ∈ oldState.serviceTypes.entries
      · rw [IndexMap.entry_unique h_entry h_same]
        exact ⟨key, h_entry'⟩
      · obtain ⟨update, h_update, h_eq⟩ := typeChange_mem h_old h_new h_entry' h_same
        -- both configurations are of the type that is the key
        have h_types : idOfType info' = idOfType info := by
          unfold idOfType
          rw [← h_old.serviceTypes key info h_entry, ← h_new.serviceTypes key info' h_entry']
        exact absurd (h_eq.trans h_types) (h_none update h_update info h_match h_id)
    · rintro ⟨key, h_entry⟩
      by_cases h_same : ⟨key, info⟩ ∈ oldState.serviceTypes.entries
      · exact ⟨key, h_same⟩
      · obtain ⟨update, h_update, h_eq⟩ := typeChange_mem h_old h_new h_entry h_same
        exact absurd h_eq (h_none update h_update info h_match h_id)

end Changes

/-! ### Every sequence of transactions -/

/-- The transactions, run from the state, keep the keying and remove no service type. -/
def KeepsKeying : BlokliTestState → List Submitted → Prop
  | _, [] => True
  | state, tx :: txs =>
    (submit state tx).Keyed ∧
      (∀ key ∈ state.serviceTypes, key ∈ (submit state tx).serviceTypes) ∧
      KeepsKeying (submit state tx) txs

/-- The service updates among what a transaction publishes. -/
theorem publications_asService (oldState state : BlokliTestState) :
    (publications oldState state).filterMap Event.asService = serviceChanges oldState state := by
  unfold publications
  simp [List.filterMap_append, List.filterMap_map, Function.comp_def, Event.asService]

/-- The changes of service types, among all that is published. -/
theorem publications_asServiceType (oldState state : BlokliTestState) :
    (publications oldState state).filterMap Event.asServiceType =
      serviceTypeChanges oldState state := by
  unfold publications
  simp [List.filterMap_append, List.filterMap_map, Function.comp_def, Event.asServiceType]

/-- A fold that follows the state keeps following it. -/
theorem lookup_announced_services {state : BlokliTestState} (h_keyed : state.Keyed)
    {txs : List Submitted} (h_keeps : KeepsKeying state txs) {selector : ServiceSelector}
    {m : IndexMap (Text × Text) ServiceEntry}
    (h : ∀ k, m.lookup k = index idOfEntry (state.queryServices selector) k) (k : Text × Text) :
    (replay idOfUpdate outcome m (((announced state txs).filterMap Event.asService).filter
        (serviceUpdateMatches selector))).lookup k =
      index idOfEntry ((txs.foldl submit state).queryServices selector) k := by
  -- the induction is on the transactions, with the fold so far
  induction txs generalizing state m with
  | nil => exact h k
  | cons tx txs ih =>
    obtain ⟨h_new, -, h_rest⟩ := h_keeps
    rw [announced, List.filterMap_append, List.filter_append, replay_append]
    refine ih h_new h_rest fun k => ?_
    -- a rejected transaction changes nothing and publishes nothing
    rcases published_cases state tx with ⟨h_same, h_events⟩ | h_events
    · rw [h_same, h_events]
      exact h k
    · rw [h_events, publications_asService]
      exact lookup_services h_keyed h_new h k

/-- Folding what transactions publish leaves the service types that the query returns. -/
theorem lookup_announced_serviceTypes {state : BlokliTestState} (h_keyed : state.Keyed)
    {txs : List Submitted} (h_keeps : KeepsKeying state txs) {serviceType : Option ServiceTypeId}
    {m : IndexMap (Option Text) ServiceTypeInfo}
    (h : ∀ k, m.lookup k = index idOfType (state.queryServiceTypes serviceType) k)
    (k : Option Text) :
    (replay ServiceTypeUpdate.serviceType ServiceTypeUpdate.config m
        (((announced state txs).filterMap Event.asServiceType).filter
          (serviceTypeUpdateMatches serviceType))).lookup k =
      index idOfType ((txs.foldl submit state).queryServiceTypes serviceType) k := by
  -- the induction is on the transactions, with the fold so far
  induction txs generalizing state m with
  | nil => exact h k
  | cons tx txs ih =>
    obtain ⟨h_new, h_keep, h_rest⟩ := h_keeps
    rw [announced, List.filterMap_append, List.filter_append, replay_append]
    refine ih h_new h_rest fun k => ?_
    -- a rejected transaction changes nothing and publishes nothing
    rcases published_cases state tx with ⟨h_same, h_events⟩ | h_events
    · rw [h_same, h_events]
      exact h k
    · rw [h_events, publications_asServiceType]
      exact lookup_serviceTypes h_keyed h_new h_keep h k

/-- The last state is keyed. -/
theorem keepsKeying_final {state : BlokliTestState} (h_keyed : state.Keyed)
    {txs : List Submitted} (h_keeps : KeepsKeying state txs) : (txs.foldl submit state).Keyed := by
  induction txs generalizing state with
  | nil => exact h_keyed
  | cons tx txs ih => exact ih h_keeps.1 h_keeps.2.2

/-- The initial part is the query. -/
theorem lookup_initial_services {state : BlokliTestState} (h_keyed : state.Keyed)
    (selector : ServiceSelector) (k : Text × Text) :
    (replay idOfUpdate outcome ∅ (((state.queryServices selector).map registeredService).filter
        (serviceUpdateMatches selector))).lookup k =
      index idOfEntry (state.queryServices selector) k := by
  have h_filter : ((state.queryServices selector).map registeredService).filter
      (serviceUpdateMatches selector) = (state.queryServices selector).map registeredService := by
    -- what the query returns passes its own filter
    refine List.filter_eq_self.mpr fun update h_update => ?_
    obtain ⟨entry, h_entry, rfl⟩ := List.mem_map.mp h_update
    exact (mem_queryServices.mp h_entry).2
  rw [h_filter]
  -- the fold holds what was there last, and the initial part has each identifier once
  refine lookup_replay_of_agree (fun update h_update h_id => ?_) fun h_none => ?_
  · obtain ⟨entry, h_entry, rfl⟩ := List.mem_map.mp h_update
    exact ((index_eq_some (nodup_queryServices h_keyed selector)).mpr ⟨h_entry, h_id⟩).symm
  -- an identifier that no initial update has is of no entry that is selected
  · refine (Option.eq_none_iff_forall_not_mem.mpr fun entry h_mem => ?_).symm
    obtain ⟨h_entry, h_id⟩ := (index_eq_some (nodup_queryServices h_keyed selector)).mp h_mem
    exact h_none _ (List.mem_map_of_mem h_entry) h_id

/-- Folding the initial part gives the service types of the query. -/
theorem lookup_initial_serviceTypes {state : BlokliTestState} (h_keyed : state.Keyed)
    (serviceType : Option ServiceTypeId) (k : Option Text) :
    (replay ServiceTypeUpdate.serviceType ServiceTypeUpdate.config ∅
        (((state.queryServiceTypes serviceType).map registeredServiceType).filter
          (serviceTypeUpdateMatches serviceType))).lookup k =
      index idOfType (state.queryServiceTypes serviceType) k := by
  have h_filter : ((state.queryServiceTypes serviceType).map registeredServiceType).filter
      (serviceTypeUpdateMatches serviceType) =
        (state.queryServiceTypes serviceType).map registeredServiceType := by
    -- what the query returns passes its own filter
    refine List.filter_eq_self.mpr fun update h_update => ?_
    obtain ⟨info, h_info, rfl⟩ := List.mem_map.mp h_update
    exact (typeUpdateMatches_of_id rfl).trans (mem_queryServiceTypes.mp h_info).2
  rw [h_filter]
  -- the fold holds what was there last, and the initial part has each identifier once
  refine lookup_replay_of_agree (fun update h_update h_id => ?_) fun h_none => ?_
  · obtain ⟨info, h_info, rfl⟩ := List.mem_map.mp h_update
    exact ((index_eq_some (nodup_queryServiceTypes h_keyed serviceType)).mpr ⟨h_info, h_id⟩).symm
  -- an identifier that no initial update has is of no type that is selected
  · refine (Option.eq_none_iff_forall_not_mem.mpr fun info h_mem => ?_).symm
    obtain ⟨h_info, h_id⟩ := (index_eq_some (nodup_queryServiceTypes h_keyed serviceType)).mp h_mem
    exact h_none _ (List.mem_map_of_mem h_info) h_id

/-- **Service subscriptions converge.** After every sequence of transactions that keeps
the keying, the folds of the two streams have what the queries return. -/
theorem service_subscriptions_converge {state : BlokliTestState} (h_keyed : state.Keyed)
    {txs : List Submitted} (h_keeps : KeepsKeying state txs) (selector : ServiceSelector)
    (serviceType : Option ServiceTypeId) :
    (foldServices (subscribeServices state selector (announced state txs))).values.Perm
      ((txs.foldl submit state).queryServices selector) ∧
    (foldServiceTypes (subscribeServiceTypes state serviceType (announced state txs))).values.Perm
      ((txs.foldl submit state).queryServiceTypes serviceType) := by
  -- the final state is keyed, so that both sides have each identifier once
  have h_final := keepsKeying_final h_keyed h_keeps
  constructor
  · refine values_perm_of_lookup (nodup_queryServices h_final selector) fun k => ?_
    unfold foldServices subscribeServices
    -- the initial part, then the live part
    rw [List.filter_append, replay_append]
    exact lookup_announced_services h_keyed h_keeps (lookup_initial_services h_keyed selector) k
  · refine values_perm_of_lookup (nodup_queryServiceTypes h_final serviceType) fun k => ?_
    unfold foldServiceTypes subscribeServiceTypes
    -- the initial part, then the live part
    rw [List.filter_append, replay_append]
    exact lookup_announced_serviceTypes h_keyed h_keeps
      (lookup_initial_serviceTypes h_keyed serviceType) k

/-! ### A node that leaves and returns -/

def sampleNode : ChainAddress := ⟨List.replicate 20 17, List.length_replicate⟩

/-- An entry of the sample node. -/
def sampleEntry (metadata : Text) : ServiceEntry where
  serviceType := "gvpn:exit".toList
  node := '0' :: 'x' :: sampleNode.encodeHex
  safe := []
  metadata := metadata
  registeredAt := "1700000000".toList
  updatedAt := "1700000000".toList

def sampleType : ServiceTypeInfo where
  serviceType := "gvpn:exit".toList
  owner := none
  requirement := none
  registrationBurn := "1 wxHOPR".toList
  updateBurn := "0 wxHOPR".toList

/-- The default state with the sample type, and the entry of the sample node, if it
has one. -/
def stateServing (entry : Option ServiceEntry) : BlokliTestState :=
  { BlokliTestState.default with
    services := match entry with
      | none => ∅
      | some entry => AList.singleton (serviceEntryKey entry.serviceType sampleNode) entry
    serviceTypes := AList.singleton sampleType.serviceType sampleType }

/-- The sample state is keyed. -/
theorem stateServing_keyed {entry : Option ServiceEntry}
    (h : ∀ e, entry = some e → Hex.hexMatches e.node sampleNode.toList = true) :
    (stateServing entry).Keyed where
  services key e h_entry := by
    cases entry with
    | none => exact absurd h_entry List.not_mem_nil
    | some entry =>
      obtain ⟨rfl, h_eq⟩ := Sigma.mk.inj (List.mem_singleton.mp h_entry)
      obtain rfl := eq_of_heq h_eq
      exact ⟨sampleNode, h _ rfl, rfl⟩
  serviceTypes key info h_entry := by
    obtain ⟨rfl, h_eq⟩ := Sigma.mk.inj (List.mem_singleton.mp h_entry)
    obtain rfl := eq_of_heq h_eq
    rfl

/-- A transaction that leaves the given entry. -/
def serving (entry : Option ServiceEntry) : Submitted where
  signedTx := []
  mutator := fun _ _ => (.ok (), stateServing entry)

/-- The entries of the sample node name it. -/
theorem sampleEntry_node (metadata : Text) :
    ∀ e, some (sampleEntry metadata) = some e →
      Hex.hexMatches e.node sampleNode.toList = true := by
  intro e h
  obtain rfl := Option.some.inj h
  show Hex.hexMatches ('0' :: 'x' :: sampleNode.encodeHex) sampleNode.toList = true
  decide

/-- The theorem at an entry that is deregistered, and registered again with another type. -/
theorem service_subscriptions_converge_returned :
    (foldServices (subscribeServices (stateServing (some (sampleEntry "0x01".toList))) .any
      (announced (stateServing (some (sampleEntry "0x01".toList)))
        [serving none, serving (some (sampleEntry "0x02".toList))]))).values.Perm
      ((stateServing (some (sampleEntry "0x02".toList))).queryServices .any) ∧
    (foldServiceTypes (subscribeServiceTypes (stateServing (some (sampleEntry "0x01".toList)))
      none (announced (stateServing (some (sampleEntry "0x01".toList)))
        [serving none, serving (some (sampleEntry "0x02".toList))]))).values.Perm
      ((stateServing (some (sampleEntry "0x02".toList))).queryServiceTypes none) := by
  have h_none : ∀ e, (none : Option ServiceEntry) = some e →
      Hex.hexMatches e.node sampleNode.toList = true := fun e h => (by cases h)
  have h_keeps : KeepsKeying (stateServing (some (sampleEntry "0x01".toList)))
      [serving none, serving (some (sampleEntry "0x02".toList))] :=
    ⟨stateServing_keyed h_none, fun _ h_key => h_key, stateServing_keyed (sampleEntry_node _),
      fun _ h_key => h_key, trivial⟩
  exact service_subscriptions_converge (stateServing_keyed (sampleEntry_node _)) h_keeps .any none

/-! ### A node that is spelled anew -/

/-- The fold by what an update says, the spelling of its node included. -/
def foldServicesSpelled (updates : List ServiceUpdate) : IndexMap (Text × Text) ServiceEntry :=
  replay (fun update => (update.serviceType, update.node)) outcome ∅ updates

/-- The entry of the sample node, spelled without the prefix. -/
def sampleRespelled : ServiceEntry := { sampleEntry [] with node := sampleNode.encodeHex }

/-- The respelled entry names the same node. -/
theorem sampleRespelled_node :
    ∀ e, some sampleRespelled = some e → Hex.hexMatches e.node sampleNode.toList = true := by
  intro e h
  obtain rfl := Option.some.inj h
  show Hex.hexMatches sampleNode.encodeHex sampleNode.toList = true
  decide

/-- **By the spelling, the fold keeps both.** The transaction spells the node of an entry
anew, which is an update of this entry: both spellings are in the fold by the spelling, and
one entry is in the registry. -/
theorem service_fold_by_spelling_diverges :
    (stateServing (some (sampleEntry []))).Keyed ∧
    KeepsKeying (stateServing (some (sampleEntry []))) [serving (some sampleRespelled)] ∧
    ¬(foldServicesSpelled (subscribeServices (stateServing (some (sampleEntry []))) .any
        (announced (stateServing (some (sampleEntry [])))
          [serving (some sampleRespelled)]))).values.Perm
      (([serving (some sampleRespelled)].foldl submit
        (stateServing (some (sampleEntry [])))).queryServices .any) := by
  refine ⟨stateServing_keyed (sampleEntry_node _),
    ⟨stateServing_keyed sampleRespelled_node, fun _ h_key => h_key, trivial⟩, fun h_perm => ?_⟩
  -- two entries against one
  have h_length := h_perm.length_eq
  revert h_length
  decide

end Blokli.Testing
