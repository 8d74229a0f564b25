import BlokliClient.ServiceType
import BlokliClient.Testing.Services

/-!
# Spellings in the in-memory client

A fixture of the in-memory client may spell a service type by its name or in hexadecimal,
and an address with or without a prefix and in either case. The lookups of services compare
normal forms, with one exception.

* `serviceTypeMatches_unique` : a text denotes at most one service type. A name has at most
  32 characters and hexadecimal digits are at least 64, so that no text is both; and each
  of the two forms is injective.
* `service_type_denotes_one_id` : what a lookup by service type finds is of that type.
* `query_live_services` compares the node of an entry with the registered nodes of the safes
  as texts. `liveness_of_spelling` says for which states the result does not depend on how
  the addresses are spelled: those in which an entry and some safe spell them alike.
-/

namespace Blokli.Testing

/-! ### Service types -/

/-- A text matches a type as its digits, or as its name. -/
theorem serviceTypeMatches_iff {rendered : Text} {wanted : ServiceTypeId} :
    serviceTypeMatches rendered wanted = true ↔
      Hex.hexMatches rendered wanted.toList = true ∨ serviceTypeName wanted = some rendered := by
  unfold serviceTypeMatches
  rw [Bool.or_eq_true, Option.any_eq_true]
  -- `==` of texts is equality
  refine or_congr_right ⟨?_, fun h => ⟨rendered, h, BEq.rfl⟩⟩
  rintro ⟨name, h_name, h_eq⟩
  rw [h_name, beq_iff_eq.mp h_eq]

/-- **No name is read as hexadecimal digits.** There are too few. -/
theorem not_hexMatches_of_name {rendered : Text} {id id' : ServiceTypeId}
    (h_name : serviceTypeName id = some rendered) :
    ¬ Hex.hexMatches rendered id'.toList = true := by
  intro h_hex
  -- a name has at most 32 characters, the digits of a type are 64
  have h_short := length_of_serviceTypeName h_name
  have h_long := Hex.length_of_hexMatches h_hex
  rw [id'.size] at h_long
  omega

/-- **A text denotes at most one service type.** -/
theorem serviceTypeMatches_unique {rendered : Text} {id id' : ServiceTypeId}
    (h : serviceTypeMatches rendered id = true) (h' : serviceTypeMatches rendered id' = true) :
    id = id' := by
  -- both as digits, both as names, or one of each
  rcases serviceTypeMatches_iff.mp h with h_hex | h_name
  · rcases serviceTypeMatches_iff.mp h' with h_hex' | h_name'
    · exact Bytes.ext_toList (Hex.hexMatches_unique h_hex h_hex')
    · exact absurd h_hex (not_hexMatches_of_name h_name')
  · rcases serviceTypeMatches_iff.mp h' with h_hex' | h_name'
    · exact absurd h_hex' (not_hexMatches_of_name h_name)
    · exact serviceTypeName_inj h_name h_name'

/-- The text denotes this service type and no other. -/
def Denotes (rendered : Text) (id : ServiceTypeId) : Prop :=
  ∀ id', serviceTypeMatches rendered id' = true ↔ id' = id

/-- What matches a type denotes it. -/
theorem denotes_of_matches {rendered : Text} {id : ServiceTypeId}
    (h : serviceTypeMatches rendered id = true) : Denotes rendered id := by
  intro id'
  constructor
  · exact fun h' => serviceTypeMatches_unique h' h
  · rintro rfl
    exact h

/-- The service type that a selector asks for. -/
def selectedType : ServiceSelector → Option ServiceTypeId
  | .serviceType serviceType => some serviceType
  | .serviceTypeAndNode serviceType _ => some serviceType
  | .node _ => none
  | .any => none

/-- An entry that is selected by its type denotes it. -/
theorem denotes_of_serviceMatches {serviceType node : Text} {selector : ServiceSelector}
    {wanted : ServiceTypeId} (h_selected : selectedType selector = some wanted)
    (h : serviceMatches serviceType node selector = true) : Denotes serviceType wanted := by
  cases selector with
  | serviceType wanted' =>
    obtain rfl := Option.some.inj h_selected
    exact denotes_of_matches h
  | serviceTypeAndNode wanted' node' =>
    obtain rfl := Option.some.inj h_selected
    exact denotes_of_matches (Bool.and_eq_true_iff.mp h).1
  -- these select by no type
  | node | any => cases h_selected

/-- What the lookups for one service type find in a state is of that type. -/
structure FindsType (state : BlokliTestState) (wanted : ServiceTypeId) : Prop where
  getServiceType : ∀ info, state.getServiceType wanted = some info →
    Denotes info.serviceType wanted
  getServiceEntry : ∀ node entry, state.getServiceEntry wanted node = some entry →
    Denotes entry.serviceType wanted
  queryServices : ∀ selector, selectedType selector = some wanted →
    ∀ entry ∈ state.queryServices selector, Denotes entry.serviceType wanted
  queryLiveServices : ∀ selector, selectedType selector = some wanted →
    ∀ entry ∈ state.queryLiveServices selector, Denotes entry.serviceType wanted
  queryServiceTypes : ∀ info ∈ state.queryServiceTypes (some wanted),
    Denotes info.serviceType wanted
  serviceUpdates : ∀ selector update, selectedType selector = some wanted →
    serviceUpdateMatches selector update = true → Denotes update.serviceType wanted
  serviceTypeUpdates : ∀ update, serviceTypeUpdateMatches (some wanted) update = true →
    ∃ rendered, update.serviceType = some rendered ∧ Denotes rendered wanted

/-- The service type of an id is found however it is spelled. -/
theorem findsType (state : BlokliTestState) (wanted : ServiceTypeId) : FindsType state wanted where
  -- the lookup returns an entry that passed its test
  getServiceType info h := by
    have h_info := List.find?_some h
    exact denotes_of_matches h_info
  getServiceEntry node entry h := by
    have h_entry := List.find?_some h
    exact denotes_of_matches (Bool.and_eq_true_iff.mp h_entry).1
  queryServices selector h_selected entry h_entry :=
    denotes_of_serviceMatches h_selected (mem_queryServices.mp h_entry).2
  queryLiveServices selector h_selected entry h_entry := by
    have h_selector := (mem_queryServices.mp (List.mem_filter.mp h_entry).1).2
    exact denotes_of_serviceMatches h_selected h_selector
  queryServiceTypes info h_info := denotes_of_matches (mem_queryServiceTypes.mp h_info).2
  serviceUpdates selector update h_selected h := denotes_of_serviceMatches h_selected h
  serviceTypeUpdates update h := by
    obtain ⟨rendered, h_rendered, h_matches⟩ := (Option.any_eq_true _ _).mp h
    exact ⟨rendered, h_rendered, denotes_of_matches h_matches⟩

/-- **A rendered service type denotes at most one id.** The name of an id and its digits in
any case, with the prefix or without, denote it; no text denotes two ids. Whatever is looked
up by service type is therefore of that type. -/
theorem service_type_denotes_one_id :
    (∀ rendered id id', serviceTypeMatches rendered id = true →
      serviceTypeMatches rendered id' = true → id = id') ∧
    (∀ id name, serviceTypeName id = some name → serviceTypeMatches name id = true) ∧
    (∀ (id : ServiceTypeId) (digits : Text), Hex.eqIgnoreAsciiCase digits id.encodeHex = true →
      serviceTypeMatches digits id = true ∧
        serviceTypeMatches ("0x".toList ++ digits) id = true) ∧
    ∀ state wanted, FindsType state wanted := by
  refine ⟨fun rendered id id' => serviceTypeMatches_unique, ?_, ?_, findsType⟩
  · intro id name h_name
    exact serviceTypeMatches_iff.mpr (Or.inr h_name)
  · intro id digits h_digits
    -- digits in any case are the digits
    have h_hex : Hex.hexMatches digits id.toList = true := Hex.hexMatches_of_digits h_digits
    constructor
    · exact serviceTypeMatches_iff.mpr (Or.inl h_hex)
    · apply serviceTypeMatches_iff.mpr
      left
      -- the prefix is trimmed
      show Hex.hexMatches ('0' :: 'x' :: digits) id.toList = true
      rw [Hex.hexMatches_prefixed]
      exact h_hex

/-! ### Liveness -/

/-- The text spells the address. -/
def Spells (text : Text) (address : ChainAddress) : Prop :=
  Hex.hexMatches text address.toList = true

namespace BlokliTestState

variable (state : BlokliTestState)

/-- Some safe has this text among its registered nodes. -/
def ListsNode (text : Text) : Prop :=
  ∃ safe ∈ state.deployedSafes.values, text ∈ safe.registeredNodes

/-- Some safe registers the address, however it spells it. -/
def RegistersAddress (address : ChainAddress) : Prop :=
  ∃ text, state.ListsNode text ∧ Spells text address

/-- Of the entries that a selector selects, exactly those are live whose address some safe
registers. -/
def LiveExactly (selector : ServiceSelector) : Prop :=
  ∀ entry ∈ state.queryServices selector, entry ∈ state.queryLiveServices selector ↔
    ∃ address, Spells entry.node address ∧ state.RegistersAddress address

/-- **Entries and safes agree on the spelling.** Where some safe registers the address of a
selected entry, some safe spells it as the entry does; and what both spell alike is an
address. -/
structure SpelledAlike (selector : ServiceSelector) : Prop where
  alike : ∀ entry ∈ state.queryServices selector, ∀ text address, state.ListsNode text →
    Spells text address → Spells entry.node address → state.ListsNode entry.node
  address : ∀ entry ∈ state.queryServices selector, state.ListsNode entry.node →
    ∃ address, Spells entry.node address

variable {state} {selector : ServiceSelector}

/-- Live entries are those whose node a safe lists. -/
theorem mem_queryLiveServices {entry : ServiceEntry} :
    entry ∈ state.queryLiveServices selector ↔
      entry ∈ state.queryServices selector ∧ state.ListsNode entry.node := by
  unfold queryLiveServices ListsNode
  rw [List.mem_filter, List.any_eq_true]
  refine and_congr_right fun _ => exists_congr fun safe => and_congr_right fun _ => ?_
  rw [List.any_eq_true]
  constructor
  · -- a safe lists a node whose text is that of the entry
    rintro ⟨node, h_node, h_eq⟩
    rw [← beq_iff_eq.mp h_eq]
    exact h_node
  · exact fun h_node => ⟨entry.node, h_node, BEq.rfl⟩

/-- **Comparing texts finds the live entries** of the states that agree on the spelling. -/
theorem liveExactly_iff : state.LiveExactly selector ↔ state.SpelledAlike selector := by
  constructor
  · intro h_exact
    constructor
    -- the address is registered, so the entry is live, which compares texts
    · intro entry h_entry text address h_text h_spells h_node
      have h_live := (h_exact entry h_entry).mpr ⟨address, h_node, text, h_text, h_spells⟩
      exact (mem_queryLiveServices.mp h_live).2
    · intro entry h_entry h_lists
      -- a listed node makes the entry live, which is to have a registered address
      obtain ⟨address, h_node, -⟩ :=
        (h_exact entry h_entry).mp (mem_queryLiveServices.mpr ⟨h_entry, h_lists⟩)
      exact ⟨address, h_node⟩
  · intro h_alike entry h_entry
    rw [mem_queryLiveServices]
    constructor
    · -- the text of the entry is an address, and some safe lists it
      rintro ⟨-, h_lists⟩
      obtain ⟨address, h_node⟩ := h_alike.address entry h_entry h_lists
      exact ⟨address, h_node, entry.node, h_lists, h_node⟩
    · -- some safe has the address, hence the text of the entry too
      rintro ⟨address, h_node, text, h_text, h_spells⟩
      exact ⟨h_entry, h_alike.alike entry h_entry text address h_text h_spells h_node⟩

end BlokliTestState

/-! ### Re-spellings -/

/-- The entries differ in the spelling of their node only. -/
def EntryRespelled (entry entry' : ServiceEntry) : Prop :=
  Hex.sameHex entry.node entry'.node = true ∧ entry' = { entry with node := entry'.node }

/-- The safes differ in the spelling of their registered nodes only. -/
def SafeRespelled (safe safe' : Safe) : Prop :=
  List.Forall₂ (fun node node' => Hex.sameHex node node' = true)
    safe.registeredNodes safe'.registeredNodes ∧
  safe' = { safe with registeredNodes := safe'.registeredNodes }

/-- **Two spellings of a state**: of the nodes of its service entries, and of the registered
nodes of its safes. -/
structure BlokliTestState.Respelled (state state' : BlokliTestState) : Prop where
  services : List.Forall₂ EntryRespelled state.services.values state'.services.values
  safes : List.Forall₂ SafeRespelled state.deployedSafes.values state'.deployedSafes.values

section Lists

variable {α β : Type} {R : α → β → Prop} {l : List α} {l' : List β}

/-- What is in one list has its partner in the other. -/
theorem exists_of_forall₂ (h : List.Forall₂ R l l') {x : α} (h_x : x ∈ l) :
    ∃ y ∈ l', R x y := by
  induction h with
  | nil => exact absurd h_x List.not_mem_nil
  | cons h_head _ ih =>
    -- the heads are partners
    rcases List.mem_cons.mp h_x with rfl | h_x
    · exact ⟨_, List.mem_cons_self, h_head⟩
    · obtain ⟨y, h_y, h_rel⟩ := ih h_x
      exact ⟨y, List.mem_cons_of_mem _ h_y, h_rel⟩

/-- Filters that agree on related elements keep related lists. -/
theorem forall₂_filter {p : α → Bool} {q : β → Bool} (h : List.Forall₂ R l l')
    (h_agree : ∀ x ∈ l, ∀ y ∈ l', R x y → p x = q y) :
    List.Forall₂ R (l.filter p) (l'.filter q) := by
  induction h with
  | nil => exact .nil
  | @cons x y l l' h_head h_tail ih =>
    have h_rest := ih fun x h_x y h_y =>
      h_agree x (List.mem_cons_of_mem _ h_x) y (List.mem_cons_of_mem _ h_y)
    rw [List.filter_cons, List.filter_cons,
      h_agree x List.mem_cons_self y List.mem_cons_self h_head]
    -- both heads pass, or none
    split
    · exact .cons h_head h_rest
    · exact h_rest

end Lists

/-- Spelling an address does not depend on prefix and case. -/
theorem Spells.respelled {text text' : Text} {address : ChainAddress}
    (h : Hex.sameHex text text' = true) : Spells text address ↔ Spells text' address := by
  unfold Spells
  rw [Hex.hexMatches_congr h]

namespace BlokliTestState.Respelled

variable {state state' : BlokliTestState} {selector : ServiceSelector}

/-- Respelling goes both ways. -/
theorem symm (h : state.Respelled state') : state'.Respelled state where
  services := by
    -- `sameHex` is symmetric
    refine List.Forall₂.flip (h.services.imp fun entry entry' h_entry => ?_)
    obtain ⟨h_node, h_rest⟩ := h_entry
    exact ⟨Hex.sameHex_comm h_node, by rw [h_rest]⟩
  safes := by
    refine List.Forall₂.flip (h.safes.imp fun safe safe' h_safe => ?_)
    obtain ⟨h_nodes, h_rest⟩ := h_safe
    exact ⟨List.Forall₂.flip (h_nodes.imp fun _ _ => Hex.sameHex_comm), by rw [h_rest]⟩

/-- A registered address stays registered. -/
theorem registersAddress (h : state.Respelled state') {address : ChainAddress}
    (h_address : state.RegistersAddress address) : state'.RegistersAddress address := by
  obtain ⟨text, ⟨safe, h_safe, h_text⟩, h_spells⟩ := h_address
  -- the safe has a partner, and so has the text in it
  obtain ⟨safe', h_safe', h_nodes, -⟩ := exists_of_forall₂ h.safes h_safe
  obtain ⟨text', h_text', h_same⟩ := exists_of_forall₂ h_nodes h_text
  exact ⟨text', ⟨safe', h_safe', h_text'⟩, (Spells.respelled h_same).mp h_spells⟩

/-- A selector selects the same entries. -/
theorem queryServices (h : state.Respelled state') (selector : ServiceSelector) :
    List.Forall₂ EntryRespelled (state.queryServices selector) (state'.queryServices selector) := by
  refine forall₂_filter h.services ?_
  rintro entry - entry' - ⟨h_node, h_rest⟩
  have h_type : entry'.serviceType = entry.serviceType := by rw [h_rest]
  refine serviceMatches_congr ?_ selector
  unfold entryId
  rw [h_type]
  unfold Hex.sameHex Hex.eqIgnoreAsciiCase at h_node
  rw [beq_iff_eq.mp h_node]

/-- Where liveness is exact, both spellings have the same live entries. -/
theorem queryLiveServices (h : state.Respelled state') (h_exact : state.LiveExactly selector)
    (h_exact' : state'.LiveExactly selector) :
    List.Forall₂ EntryRespelled (state.queryLiveServices selector)
      (state'.queryLiveServices selector) := by
  refine forall₂_filter (h.queryServices selector) ?_
  intro entry h_entry entry' h_entry' h_respelled
  have h_live := h_exact entry h_entry
  have h_live' := h_exact' entry' h_entry'
  unfold BlokliTestState.queryLiveServices at h_live h_live'
  rw [List.mem_filter, and_iff_right h_entry] at h_live
  rw [List.mem_filter, and_iff_right h_entry'] at h_live'
  rw [Bool.eq_iff_iff, h_live, h_live']
  -- the two entries have one address, and both states register it or neither does
  refine exists_congr fun address => and_congr (Spells.respelled h_respelled.1) ?_
  exact ⟨h.registersAddress, h.symm.registersAddress⟩

end BlokliTestState.Respelled

/-- **When liveness does not depend on spelling.** For two spellings of a state,
`query_live_services` returns in both exactly the entries whose address some safe registers,
and so the same entries, if and only if in both the selected entries and the safes agree on
the spelling. -/
theorem liveness_of_spelling {state state' : BlokliTestState} (h : state.Respelled state')
    (selector : ServiceSelector) :
    (state.LiveExactly selector ∧ state'.LiveExactly selector ∧
      List.Forall₂ EntryRespelled (state.queryLiveServices selector)
        (state'.queryLiveServices selector)) ↔
      state.SpelledAlike selector ∧ state'.SpelledAlike selector := by
  rw [← BlokliTestState.liveExactly_iff, ← BlokliTestState.liveExactly_iff]
  constructor
  · rintro ⟨h_exact, h_exact', -⟩
    exact ⟨h_exact, h_exact'⟩
  · rintro ⟨h_exact, h_exact'⟩
    exact ⟨h_exact, h_exact', h.queryLiveServices h_exact h_exact'⟩

/-! ### A prefix that hides a node -/

def nodeDigits : Text := sampleNode.encodeHex

def prefixedNode : Text := '0' :: 'x' :: nodeDigits

/-- The entry of the sample node, with its address spelled so. -/
def entrySpelled (node : Text) : ServiceEntry := { sampleEntry [] with node := node }

def safeSpelled (node : Text) : Safe where
  address := []
  chainKey := []
  owners := []
  moduleAddress := []
  registeredNodes := [node]
  threshold := none

/-- One service entry and one safe, with the address of the node spelled in each. -/
def stateSpelled (entryNode safeNode : Text) : BlokliTestState :=
  { stateServing (some (entrySpelled entryNode)) with
    deployedSafes := AList.singleton [] (safeSpelled safeNode) }

/-- Two sample states that differ in spelling. -/
theorem stateSpelled_respelled {entryNode safeNode entryNode' safeNode' : Text}
    (h_entry : Hex.sameHex entryNode entryNode' = true)
    (h_safe : Hex.sameHex safeNode safeNode' = true) :
    (stateSpelled entryNode safeNode).Respelled (stateSpelled entryNode' safeNode') where
  services := .cons ⟨h_entry, rfl⟩ .nil
  safes := .cons ⟨.cons h_safe .nil, rfl⟩ .nil

/-- A sample state with one spelling throughout. -/
theorem stateSpelled_alike {node : Text} (h : Spells node sampleNode) (selector : ServiceSelector) :
    (stateSpelled node node).SpelledAlike selector := by
  have h_lists : (stateSpelled node node).ListsNode node :=
    ⟨safeSpelled node, List.mem_singleton_self _, List.mem_singleton_self _⟩
  have h_node : ∀ entry ∈ (stateSpelled node node).queryServices selector, entry.node = node := by
    intro entry h_entry
    obtain ⟨⟨key, h_key⟩, -⟩ := mem_queryServices.mp h_entry
    obtain ⟨-, h_eq⟩ := Sigma.mk.inj (List.mem_singleton.mp h_key)
    rw [eq_of_heq h_eq]
    rfl
  constructor
  · intro entry h_entry _ _ _ _ _
    rw [h_node entry h_entry]
    exact h_lists
  · intro entry h_entry _
    rw [h_node entry h_entry]
    exact ⟨sampleNode, h⟩

/-- The theorem at a node that both collections spell with the prefix, or both without. -/
theorem liveness_of_spelling_alike :
    (stateSpelled prefixedNode prefixedNode).queryLiveServices .any =
      [entrySpelled prefixedNode] ∧
    (stateSpelled nodeDigits nodeDigits).queryLiveServices .any = [entrySpelled nodeDigits] ∧
    (stateSpelled prefixedNode prefixedNode).LiveExactly .any ∧
    (stateSpelled nodeDigits nodeDigits).LiveExactly .any := by
  have h_same : Hex.sameHex prefixedNode nodeDigits = true := by decide
  obtain ⟨h_exact, h_exact', -⟩ :=
    (liveness_of_spelling (stateSpelled_respelled h_same h_same) .any).mpr
      ⟨stateSpelled_alike (by unfold Spells; decide) .any,
        stateSpelled_alike (by unfold Spells; decide) .any⟩
  exact ⟨by decide, by decide, h_exact, h_exact'⟩

/-- **The prefix of an entry hides it.** The safe registers the node without the prefix: the
entry that spells it with the prefix is not live, and its re-spelling without is. -/
theorem prefixed_node_not_live :
    (stateSpelled prefixedNode nodeDigits).Respelled (stateSpelled nodeDigits nodeDigits) ∧
    (stateSpelled prefixedNode nodeDigits).queryLiveServices .any = [] ∧
    (stateSpelled nodeDigits nodeDigits).queryLiveServices .any = [entrySpelled nodeDigits] ∧
    ¬ (stateSpelled prefixedNode nodeDigits).LiveExactly .any ∧
    ¬ List.Forall₂ EntryRespelled
      ((stateSpelled prefixedNode nodeDigits).queryLiveServices .any)
      ((stateSpelled nodeDigits nodeDigits).queryLiveServices .any) := by
  have h_none : (stateSpelled prefixedNode nodeDigits).queryLiveServices .any = [] := by decide
  have h_one : (stateSpelled nodeDigits nodeDigits).queryLiveServices .any =
      [entrySpelled nodeDigits] := by decide
  refine ⟨stateSpelled_respelled (by decide) (by decide), h_none, h_one, ?_, ?_⟩
  · intro h_exact
    have h_entry : entrySpelled prefixedNode ∈
        (stateSpelled prefixedNode nodeDigits).queryServices .any := List.mem_singleton_self _
    have h_registered : (stateSpelled prefixedNode nodeDigits).RegistersAddress sampleNode :=
      ⟨nodeDigits, ⟨safeSpelled nodeDigits, List.mem_singleton_self _, List.mem_singleton_self _⟩,
        by unfold Spells; decide⟩
    have h_live := (h_exact _ h_entry).mpr ⟨sampleNode, by unfold Spells; decide, h_registered⟩
    rw [h_none] at h_live
    exact absurd h_live List.not_mem_nil
  · rw [h_none, h_one]
    intro h_same
    cases h_same

end Blokli.Testing
