import BlokliClient.Api

/-!
# Service types as text

A service type is displayed as its ASCII name, when the id is one padded with zeros, and
as hexadecimal digits with the prefix `0x` otherwise. The inspector reads both forms; the
prefix decides which one a text is in.

* `displayServiceType_injective` : no two service types are displayed alike.
* `spelledServiceType_hex` and `spelledServiceType_name` : each form is read back.
* `service_type_round_trip` : the two sides disagree on the ids whose name starts with
  `0x`. They are displayed as a name, and read as digits, of which there are too few.
-/

namespace Blokli

/-! ### Rendering and parsing -/

/-- `service_type_to_filter`. -/
def serviceTypeToFilter (serviceType : ServiceTypeId) : Text :=
  "0x".toList ++ serviceType.encodeHex

/-- The form in which a service type is displayed. -/
def displayServiceType (serviceType : ServiceTypeId) : Text :=
  (serviceTypeName serviceType).getD (serviceTypeToFilter serviceType)

/-- `ServiceTypeId::default`. -/
def ServiceTypeId.default : ServiceTypeId := ⟨List.replicate 32 0, List.length_replicate⟩

/-- Why a service type is not accepted: what `hex::decode` reports, or a text. -/
inductive ServiceTypeError
  | fromHex
  | message (text : String)
  deriving DecidableEq

/-- The bytes of a text. -/
def textBytes (text : Text) : List UInt8 := text.flatMap String.utf8EncodeChar

/-- `strip_prefix("0x")`. -/
def stripHexPrefix : Text → Option Text
  | '0' :: 'x' :: digits => some digits
  | _ => none

/-- The bytes, followed by zeros. -/
def padded (bytes : List UInt8) (h : bytes.length ≤ 32) : ServiceTypeId where
  toList := bytes ++ List.replicate (32 - bytes.length) 0
  size := by
    rw [List.length_append, List.length_replicate]
    omega

/-- The id that a text spells, in the form that its prefix decides. -/
def spelledServiceType (value : Text) : Except ServiceTypeError ServiceTypeId :=
  match stripHexPrefix value with
  | some digits =>
    match Hex.decodeHex digits with
    | none => .error .fromHex
    | some bytes =>
      if h : bytes.length = 32 then .ok ⟨bytes, h⟩
      else .error (.message "a 0x-prefixed service type id must spell all 32 bytes")
  | none =>
    if h : textBytes value ≠ [] ∧ (textBytes value).length ≤ 32 then
      if (textBytes value).all isAsciiGraphic then .ok (padded (textBytes value) h.2)
      else .error (.message "service type name must be printable non-space ASCII")
    else .error (.message "service type name must be 1 to 32 bytes long")

/-- `parse_service_type`. -/
def parseServiceType (value : Text) : Except ServiceTypeError ServiceTypeId := do
  let id ← spelledServiceType value
  if id = ServiceTypeId.default then
    .error (.message "the zero service type id is never registered")
  else .ok id

theorem parseServiceType_ok {value : Text} {id : ServiceTypeId} :
    parseServiceType value = .ok id ↔
      spelledServiceType value = .ok id ∧ id ≠ ServiceTypeId.default := by
  unfold parseServiceType
  cases spelledServiceType value with
  | error error =>
    constructor
    · intro h
      cases h
    · intro h
      cases h.1
  | ok spelled =>
    -- the zero id is refused, whatever it was spelled as
    change (if spelled = ServiceTypeId.default then _ else _) = _ ↔ _
    split
    · next h_zero =>
      constructor
      · intro h
        cases h
      · rintro ⟨h, h_ne⟩
        exact absurd ((Except.ok.inj h).symm.trans h_zero) h_ne
    · next h_ne =>
      constructor
      · intro h
        obtain rfl := Except.ok.inj h
        exact ⟨rfl, h_ne⟩
      · exact fun h => h.1

/-! ### Names -/

/-- The characters of ASCII bytes. -/
def asciiText (bytes : List UInt8) : Text := bytes.map fun byte => Char.ofNat byte.toNat

theorem isAsciiGraphic_iff {byte : UInt8} :
    isAsciiGraphic byte = true ↔ 33 ≤ byte.toNat ∧ byte.toNat ≤ 126 := by
  unfold isAsciiGraphic
  rw [Bool.and_eq_true, decide_eq_true_iff, decide_eq_true_iff]

/-- An ASCII byte is the encoding of its character. -/
theorem utf8EncodeChar_ofNat {byte : UInt8} (h : byte.toNat ≤ 127) :
    String.utf8EncodeChar (Char.ofNat byte.toNat) = [byte] := by
  have h_valid : (Char.ofNat byte.toNat).val.toNat = byte.toNat := by
    have h_small : byte.toNat.isValidChar := Or.inl (by omega)
    unfold Char.ofNat
    rw [dif_pos h_small]
    rfl
  unfold String.utf8EncodeChar
  dsimp only
  rw [h_valid, if_pos h, UInt8.ofNat_toNat]

theorem textBytes_asciiText {bytes : List UInt8} (h : ∀ byte ∈ bytes, isAsciiGraphic byte = true) :
    textBytes (asciiText bytes) = bytes := by
  induction bytes with
  | nil => rfl
  | cons byte bytes ih =>
    obtain ⟨-, h_le⟩ := isAsciiGraphic_iff.mp (h byte List.mem_cons_self)
    have h_rest := ih fun b h_b => h b (List.mem_cons_of_mem _ h_b)
    unfold textBytes asciiText at *
    rw [List.map_cons, List.flatMap_cons, utf8EncodeChar_ofNat (by omega), h_rest]
    rfl

/-- The first byte of a character that is not ASCII is not printable. -/
theorem utf8EncodeChar_of_graphic {c : Char}
    (h : ∀ byte ∈ String.utf8EncodeChar c, isAsciiGraphic byte = true) :
    String.utf8EncodeChar c = [UInt8.ofNat c.toNat] ∧ c.toNat ≤ 127 := by
  have h_lead : ∀ n < 256, 127 ≤ n → isAsciiGraphic (UInt8.ofNat n) ≠ true := by
    intro n h_n h_large h_graphic
    obtain ⟨-, h_le⟩ := isAsciiGraphic_iff.mp h_graphic
    rw [UInt8.toNat_ofNat_of_lt' h_n] at h_le
    omega
  have h_val : c.val.toNat = c.toNat := rfl
  unfold String.utf8EncodeChar at h ⊢
  dsimp only at h ⊢
  rw [h_val] at h ⊢
  split at h
  -- an ASCII character is its own byte
  · next h_ascii =>
    rw [if_pos h_ascii]
    exact ⟨rfl, h_ascii⟩
  · -- any other has a first byte beyond the graphic ones
    split at h
    · exact absurd (h _ List.mem_cons_self) (h_lead _ (by omega) (by omega))
    · split at h
      · exact absurd (h _ List.mem_cons_self) (h_lead _ (by omega) (by omega))
      · exact absurd (h _ List.mem_cons_self) (h_lead _ (by omega) (by omega))

/-- A text whose bytes are printable ASCII is what these bytes spell. -/
theorem asciiText_textBytes {text : Text}
    (h : ∀ byte ∈ textBytes text, isAsciiGraphic byte = true) :
    asciiText (textBytes text) = text := by
  induction text with
  | nil => rfl
  | cons c text ih =>
    have h_split : textBytes (c :: text) = String.utf8EncodeChar c ++ textBytes text := rfl
    rw [h_split] at h ⊢
    obtain ⟨h_c, h_ascii⟩ := utf8EncodeChar_of_graphic fun b h_b => h b (List.mem_append_left _ h_b)
    have h_rest := ih fun b h_b => h b (List.mem_append_right _ h_b)
    have h_char : Char.ofNat (UInt8.ofNat c.toNat).toNat = c := by
      have h_size : c.toNat < 256 := by omega
      rw [UInt8.toNat_ofNat_of_lt' h_size, Char.ofNat_toNat]
    unfold asciiText at h_rest ⊢
    rw [h_c, List.map_append, h_rest, List.map_singleton, h_char]
    rfl

theorem rdropWhile_zeros (bytes : List UInt8) (n : ℕ) :
    (bytes ++ List.replicate n 0).rdropWhile (· == 0) = bytes.rdropWhile (· == 0) := by
  induction n with
  | zero => rw [List.replicate_zero, List.append_nil]
  | succ n ih =>
    rw [List.replicate_succ', ← List.append_assoc, List.rdropWhile_concat_pos _ _ _ rfl, ih]

/-- The name of a padded id. -/
theorem serviceTypeName_of_bytes {id : ServiceTypeId} {bytes : List UInt8} {n : ℕ}
    (h_nonempty : bytes ≠ []) (h_graphic : ∀ byte ∈ bytes, isAsciiGraphic byte = true)
    (h_id : id.toList = bytes ++ List.replicate n 0) :
    serviceTypeName id = some (asciiText bytes) := by
  have h_last : bytes.rdropWhile (· == 0) = bytes := by
    refine List.rdropWhile_eq_self_iff.mpr fun h_ne h_zero => ?_
    obtain ⟨h_ge, -⟩ := isAsciiGraphic_iff.mp (h_graphic _ (List.getLast_mem h_ne))
    rw [beq_iff_eq.mp h_zero] at h_ge
    exact absurd h_ge (by decide)
  unfold serviceTypeName
  dsimp only
  rw [h_id, rdropWhile_zeros, h_last, if_neg (fun h => h_nonempty (List.isEmpty_iff.mp h)),
    if_pos (List.all_eq_true.mpr h_graphic)]
  rfl

/-- What a name looks like in the id. -/
theorem serviceTypeName_eq_some {id : ServiceTypeId} {name : Text}
    (h : serviceTypeName id = some name) :
    ∃ bytes, name = asciiText bytes ∧ bytes ≠ [] ∧ (∀ byte ∈ bytes, isAsciiGraphic byte = true) ∧
      ∃ n, id.toList = bytes ++ List.replicate n 0 := by
  unfold serviceTypeName at h
  dsimp only at h
  split at h
  · cases h
  · next h_nonempty =>
    split at h
    · next h_graphic =>
      refine ⟨_, (Option.some.inj h).symm, fun h_nil => h_nonempty (by rw [h_nil]; rfl),
        List.all_eq_true.mp h_graphic, ?_⟩
      -- only zeros are cut off at the end
      have h_zeros : id.toList.rtakeWhile (· == 0) = List.replicate _ 0 :=
        List.eq_replicate_of_mem fun b h_b => by
          have h_zero := List.mem_rtakeWhile_imp h_b
          exact beq_iff_eq.mp h_zero
      refine ⟨(id.toList.rtakeWhile (· == 0)).length, ?_⟩
      rw [← h_zeros]
      exact List.rdropWhile_append_rtakeWhile.symm
    · cases h

/-! ### What is displayed -/

section Display

variable {id id' : ServiceTypeId}

/-- A name is no longer than the id. -/
theorem length_of_serviceTypeName {name : Text} (h : serviceTypeName id = some name) :
    name.length ≤ 32 := by
  obtain ⟨bytes, rfl, -, -, n, h_id⟩ := serviceTypeName_eq_some h
  have h_length := congrArg List.length h_id
  rw [id.size, List.length_append] at h_length
  unfold asciiText
  rw [List.length_map]
  omega

/-- **Names are injective**: the rest of the id is zero. -/
theorem serviceTypeName_inj {name : Text} (h : serviceTypeName id = some name)
    (h' : serviceTypeName id' = some name) : id = id' := by
  obtain ⟨bytes, rfl, -, h_graphic, n, h_id⟩ := serviceTypeName_eq_some h
  obtain ⟨bytes', h_text, -, h_graphic', n', h_id'⟩ := serviceTypeName_eq_some h'
  -- the characters of the name tell its bytes
  have h_bytes : bytes = bytes' := by
    rw [← textBytes_asciiText h_graphic, h_text, textBytes_asciiText h_graphic']
  subst h_bytes
  -- and the length of the id tells the padding
  have h_zeros : n = n' := by
    have h_length := congrArg List.length h_id
    have h_length' := congrArg List.length h_id'
    rw [id.size, List.length_append, List.length_replicate] at h_length
    rw [id'.size, List.length_append, List.length_replicate] at h_length'
    omega
  subst h_zeros
  exact Bytes.ext_toList (h_id.trans h_id'.symm)

end Display

/-! ### Reading back -/

/-- The text starts with the prefix of hexadecimal ids. -/
def HexPrefixed (text : Text) : Prop := ∃ digits, stripHexPrefix text = some digits

theorem eq_of_stripHexPrefix {text digits : Text} (h : stripHexPrefix text = some digits) :
    text = '0' :: 'x' :: digits := by
  unfold stripHexPrefix at h
  split at h
  · obtain rfl := Option.some.inj h
    rfl
  · cases h

/-- The hexadecimal form of any id is read back. -/
theorem spelledServiceType_hex (id : ServiceTypeId) :
    spelledServiceType (serviceTypeToFilter id) = .ok id := by
  have h_strip : stripHexPrefix (serviceTypeToFilter id) = some id.encodeHex := rfl
  have h_decode : Hex.decodeHex id.encodeHex = some id.toList := Hex.decodeHex_encodeHex _
  unfold spelledServiceType
  rw [h_strip]
  dsimp only
  rw [h_decode]
  exact dif_pos id.size

/-- A name is read as the id that has it, when it has no such prefix. -/
theorem spelledServiceType_name {id : ServiceTypeId} {name : Text}
    (h_name : serviceTypeName id = some name) (h_prefixed : ¬HexPrefixed name) :
    spelledServiceType name = .ok id := by
  obtain ⟨bytes, rfl, h_nonempty, h_graphic, n, h_id⟩ := serviceTypeName_eq_some h_name
  -- the name is read as a name, not as hexadecimal digits
  have h_none : stripHexPrefix (asciiText bytes) = none := by
    cases h_strip : stripHexPrefix (asciiText bytes) with
    | none => rfl
    | some digits => exact absurd ⟨digits, h_strip⟩ h_prefixed
  -- the padding is what is missing to 32 bytes
  have h_size : bytes.length + n = 32 := by
    have h_length := congrArg List.length h_id
    rw [id.size, List.length_append, List.length_replicate] at h_length
    exact h_length.symm
  have h_bytes := textBytes_asciiText h_graphic
  have h_fits : textBytes (asciiText bytes) ≠ [] ∧ (textBytes (asciiText bytes)).length ≤ 32 := by
    rw [h_bytes]
    exact ⟨h_nonempty, by omega⟩
  have h_all : (textBytes (asciiText bytes)).all isAsciiGraphic = true := by
    rw [h_bytes]
    exact List.all_eq_true.mpr h_graphic
  unfold spelledServiceType
  rw [h_none]
  dsimp only
  rw [dif_pos h_fits, if_pos h_all]
  refine congrArg Except.ok (Bytes.ext_toList ?_)
  change
    textBytes (asciiText bytes) ++ List.replicate (32 - (textBytes (asciiText bytes)).length) 0 =
    id.toList
  rw [h_bytes, h_id, show 32 - bytes.length = n by omega]

/-- A name with the prefix has too few digits. -/
theorem spelledServiceType_hexName {id id' : ServiceTypeId} {name : Text}
    (h_name : serviceTypeName id = some name) (h_prefixed : HexPrefixed name) :
    spelledServiceType name ≠ .ok id' := by
  obtain ⟨digits, h_strip⟩ := h_prefixed
  obtain ⟨bytes, h_text, -, -, n, h_id⟩ := serviceTypeName_eq_some h_name
  -- a name of 32 bytes has room for 30 digits only
  have h_length : digits.length + 2 ≤ 32 := by
    have h_chars : name.length = bytes.length := by
      rw [h_text]
      exact List.length_map ..
    rw [eq_of_stripHexPrefix h_strip] at h_chars
    have h_size := congrArg List.length h_id
    rw [id.size, List.length_append, ← h_chars] at h_size
    simp only [List.length_cons] at h_size
    omega
  intro h
  unfold spelledServiceType at h
  rw [h_strip] at h
  dsimp only at h
  split at h
  · cases h
  · -- so they decode to fewer bytes than an id has
    next spelled h_decode =>
    split at h
    · next h_spelled =>
      have h_digits := congrArg List.length (Hex.encodeHex_of_decodeHex h_decode)
      rw [Hex.length_encodeHex, List.length_map, h_spelled] at h_digits
      omega
    · cases h

/-- A text without the prefix that is accepted is the name of the id. -/
theorem serviceTypeName_of_spelled {value : Text} {id : ServiceTypeId}
    (h : spelledServiceType value = .ok id) (h_prefixed : ¬HexPrefixed value) :
    serviceTypeName id = some value := by
  unfold spelledServiceType at h
  split at h
  · next digits h_strip => exact absurd ⟨digits, h_strip⟩ h_prefixed
  · split at h
    · next h_fits =>
      split at h
      · next h_all =>
        obtain rfl := Except.ok.inj h
        have h_graphic := List.all_eq_true.mp h_all
        rw [serviceTypeName_of_bytes h_fits.1 h_graphic rfl, asciiText_textBytes h_graphic]
      · cases h
    · cases h

/-- **Service types survive rendering and parsing, but for names with the prefix.** What
is displayed of an id that is not zero is read as that id, unless the id has a name that
starts with `0x`; such a name is never accepted. So it is with the id of every text that
is accepted, and a text without the prefix is displayed as it is. -/
theorem service_type_round_trip :
    (∀ id, id ≠ ServiceTypeId.default →
      ((∀ name, serviceTypeName id = some name → ¬HexPrefixed name) →
        parseServiceType (displayServiceType id) = .ok id) ∧
      ((∃ name, serviceTypeName id = some name ∧ HexPrefixed name) →
        ∀ id', parseServiceType (displayServiceType id) ≠ .ok id')) ∧
    ∀ value id, parseServiceType value = .ok id →
      ((∀ name, serviceTypeName id = some name → ¬HexPrefixed name) →
        parseServiceType (displayServiceType id) = .ok id) ∧
      (¬HexPrefixed value → displayServiceType id = value ∧
        parseServiceType (displayServiceType id) = .ok id) := by
  -- a name or the digits, and either is read back
  have h_back : ∀ id, id ≠ ServiceTypeId.default →
      (∀ name, serviceTypeName id = some name → ¬HexPrefixed name) →
      parseServiceType (displayServiceType id) = .ok id := by
    intro id h_id h_names
    refine parseServiceType_ok.mpr ⟨?_, h_id⟩
    unfold displayServiceType
    cases h_name : serviceTypeName id with
    | none => exact spelledServiceType_hex id
    | some name => exact spelledServiceType_name h_name (h_names name h_name)
  refine ⟨fun id h_id => ⟨h_back id h_id, ?_⟩, fun value id h_parse => ?_⟩
  · -- the name is displayed, but read as hexadecimal digits
    rintro ⟨name, h_name, h_prefixed⟩ id' h_parse
    have h_display : displayServiceType id = name := by
      unfold displayServiceType
      rw [h_name]
      rfl
    rw [h_display] at h_parse
    exact spelledServiceType_hexName h_name h_prefixed (parseServiceType_ok.mp h_parse).1
  · obtain ⟨h_spelled, h_id⟩ := parseServiceType_ok.mp h_parse
    refine ⟨h_back id h_id, fun h_prefixed => ?_⟩
    have h_display : displayServiceType id = value := by
      unfold displayServiceType
      rw [serviceTypeName_of_spelled h_spelled h_prefixed]
      rfl
    exact ⟨h_display, by rw [h_display]; exact h_parse⟩

/-- The id whose name is `0xabc`. -/
def hexNamed : ServiceTypeId where
  toList := [0x30, 0x78, 0x61, 0x62, 0x63] ++ List.replicate 27 0
  size := rfl

/-- It is displayed as its name, and the name is refused. -/
theorem hex_name_refused : ¬ ∀ id, id ≠ ServiceTypeId.default →
    parseServiceType (displayServiceType id) = .ok id := by
  intro h
  have h_name : serviceTypeName hexNamed = some ['0', 'x', 'a', 'b', 'c'] := by decide
  have h_parse := h hexNamed (by decide)
  have h_display : displayServiceType hexNamed = ['0', 'x', 'a', 'b', 'c'] := by
    unfold displayServiceType
    rw [h_name]
    rfl
  rw [h_display] at h_parse
  exact absurd h_parse (by decide)

/-- The name of the documentation is read back. -/
theorem service_type_round_trip_exit :
    parseServiceType "gvpn:exit".toList = .ok
      ⟨[0x67, 0x76, 0x70, 0x6e, 0x3a, 0x65, 0x78, 0x69, 0x74]
      ++ List.replicate 23 0, rfl⟩ ∧
    displayServiceType ⟨[0x67, 0x76, 0x70, 0x6e, 0x3a, 0x65, 0x78, 0x69, 0x74] ++
      List.replicate 23 0, rfl⟩ = "gvpn:exit".toList := by
  have h_parse : parseServiceType "gvpn:exit".toList =
      .ok ⟨[0x67, 0x76, 0x70, 0x6e, 0x3a, 0x65, 0x78, 0x69, 0x74] ++ List.replicate 23 0, rfl⟩ :=
    rfl
  refine ⟨h_parse, ((service_type_round_trip.2 _ _ h_parse).2 ?_).1⟩
  rintro ⟨digits, h_strip⟩
  cases h_strip

end Blokli
