import AddressPool.Address.Wire
import AddressPool.Proofs.Bytes

namespace AddressPool

theorem Family.ofTag?_tag (family : Family) : ofTag? family.tag = some family := by
  cases family with
  | ip version => cases version <;> rfl
  | unspecified | path => rfl

theorem Family.tag_injective {one other : Family} (same : one.tag = other.tag) :
    one = other := by
  have read := one.ofTag?_tag
  rw [same, other.ofTag?_tag] at read
  exact (Option.some.inj read).symm

theorem Family.tag_of_ofTag? {tag : UInt8} {family : Family} (known : ofTag? tag = some family) :
    family.tag = tag := by
  have found := List.find?_some known
  exact eq_of_beq found

namespace Wire

def decodeKnown (known : Option Family) (withPort : Bool) (buffer : Bytes) :
    Option (Address × Nat) :=
  match known with
  | none => decode buffer withPort
  | some family => decodeAs family buffer withPort

def carried (withPort : Bool) : Address → Address
  | .ip host port => .ip host (if withPort then port else 0)
  | .unspecified => .unspecified
  | .path name => .path name

theorem size_ip (version : Version) (tagged withPort : Bool) :
    size (.ip version) tagged withPort =
      version.octetCount + (if tagged then 1 else 0) + (if withPort then 2 else 0) :=
  rfl

theorem size_tagged (version : Version) (withPort : Bool) :
    size (.ip version) true withPort = size (.ip version) false withPort + 1 := by
  rw [size_ip, size_ip]
  simp
  omega

theorem size_pos (version : Version) (tagged withPort : Bool) :
    0 < size (.ip version) tagged withPort := by
  have some := Ip.octetCount_pos version
  rw [size_ip]
  omega

theorem encode_tagged (host : Ip) (port : UInt16) (withPort : Bool) :
    encode (.ip host port) true withPort =
      (Family.ip host.version).tag :: encode (.ip host port) false withPort :=
  rfl

theorem encode_untagged (host : Ip) (port : UInt16) (withPort : Bool) :
    encode (.ip host port) false withPort =
      host.octets ++ (if withPort then Bytes.bigEndian 2 port.toNat else []) :=
  rfl

theorem encode_eq_fields (address : Address) (tagged withPort : Bool) :
    encode address tagged withPort = (fields address tagged withPort).flatten := by
  cases address with
  | ip host port => cases tagged <;> cases withPort <;> simp [encode, fields]
  | unspecified | path => rfl

theorem encode_length (address : Address) (tagged withPort : Bool) :
    (encode address tagged withPort).length = size address.family tagged withPort := by
  rw [encode_eq_fields, fields_length]

theorem decodeAs_encode (host : Ip) (port : UInt16) (withPort : Bool) (tail : Bytes) :
    decodeAs (.ip host.version) (encode (.ip host port) false withPort ++ tail) withPort =
      some (carried withPort (.ip host port), size (.ip host.version) false withPort) := by
  have whole : size (.ip host.version) false withPort ≤
      (encode (.ip host port) false withPort ++ tail).length := by
    rw [List.length_append, encode_length]
    exact Nat.le_add_right _ _
  have octets : host.octets.length = host.version.octetCount := host.octets_length
  rw [decodeAs, if_neg (Nat.not_lt.mpr whole)]
  cases withPort with
  | true =>
    simp only [encode_untagged, if_true, List.append_assoc, List.take_left' octets,
      List.drop_left' octets, List.take_left' (Bytes.bigEndian_length _ _), Ip.wrap_octets,
      Bytes.port_bigEndian, carried]
  | false =>
    simp only [encode_untagged, Bool.false_eq_true, if_false, List.append_nil,
      List.take_left' octets, Ip.wrap_octets, carried]
    rfl

theorem encode_of_long {version : Version} {buffer : Bytes} {withPort : Bool}
    (long : size (.ip version) false withPort ≤ buffer.length) :
    ∃ host port rest, host.version = version ∧
      carried withPort (.ip host port) = .ip host port ∧
        buffer = encode (.ip host port) false withPort ++ rest := by
  rw [size_ip] at long
  have octets : (Ip.wrap version (Bytes.ofBigEndian (buffer.take version.octetCount))).octets =
      buffer.take version.octetCount := by
    apply Ip.octets_wrap
    rw [List.length_take]
    omega
  cases withPort with
  | true =>
    have pair : ((buffer.drop version.octetCount).take 2).length = 2 := by
      rw [List.length_take, List.length_drop]
      simp at long
      omega
    refine ⟨Ip.wrap version (Bytes.ofBigEndian (buffer.take version.octetCount)),
      UInt16.ofNat (Bytes.ofBigEndian ((buffer.drop version.octetCount).take 2)),
      (buffer.drop version.octetCount).drop 2, rfl, rfl, ?_⟩
    rw [encode_untagged, octets, if_pos rfl, Bytes.bigEndian_port pair, List.append_assoc,
      List.take_append_drop, List.take_append_drop]
  | false =>
    refine ⟨Ip.wrap version (Bytes.ofBigEndian (buffer.take version.octetCount)), 0,
      buffer.drop version.octetCount, rfl, rfl, ?_⟩
    rw [encode_untagged, octets, if_neg Bool.false_ne_true, List.append_nil, List.take_append_drop]

-- Everything a decoder can make of a buffer when the family is known.
theorem decodeAs_cases (version : Version) (buffer : Bytes) (withPort : Bool) :
    (buffer.length < size (.ip version) false withPort ∧
      decodeAs (.ip version) buffer withPort = none) ∨
    ∃ host port rest, host.version = version ∧
      buffer = encode (.ip host port) false withPort ++ rest ∧
        decodeAs (.ip version) buffer withPort =
          some (.ip host port, size (.ip version) false withPort) := by
  by_cases short : buffer.length < size (.ip version) false withPort
  · refine .inl ⟨short, ?_⟩
    rw [decodeAs, if_pos short]
  · obtain ⟨host, port, rest, rfl, kept, shape⟩ := encode_of_long (Nat.not_lt.mp short)
    refine .inr ⟨host, port, rest, rfl, shape, ?_⟩
    rw [shape, decodeAs_encode, kept]

theorem decode_tag (family : Family) (rest : Bytes) (withPort : Bool) :
    decode (family.tag :: rest) withPort =
      (decodeAs family rest withPort).map fun (address, count) => (address, count + 1) := by
  cases read : decodeAs family rest withPort with
  | none => simp [decode, family.ofTag?_tag, read]
  | some taken => simp [decode, family.ofTag?_tag, read]

theorem decode_encode (host : Ip) (port : UInt16) (withPort : Bool) (tail : Bytes) :
    decode (encode (.ip host port) true withPort ++ tail) withPort =
      some (carried withPort (.ip host port), size (.ip host.version) true withPort) := by
  rw [encode_tagged, List.cons_append, decode_tag, decodeAs_encode, size_tagged]
  rfl

theorem decode_cases (buffer : Bytes) (withPort : Bool) :
    ((∀ version, buffer.head? = some (Family.ip version).tag →
        buffer.length < size (.ip version) true withPort) ∧ decode buffer withPort = none) ∨
    ∃ host port rest, buffer = encode (.ip host port) true withPort ++ rest ∧
      decode buffer withPort = some (.ip host port, size (.ip host.version) true withPort) := by
  cases buffer with
  | nil => exact .inl ⟨fun version absent => (nomatch absent), rfl⟩
  | cons tag rest =>
    cases known : Family.ofTag? tag with
    | none =>
      refine .inl ⟨?_, by simp [decode, known]⟩
      intro version same
      cases Option.some.inj same
      rw [Family.ofTag?_tag] at known
      cases known
    | some family =>
      cases Family.tag_of_ofTag? known
      rw [decode_tag]
      cases family with
      | ip version =>
        rcases decodeAs_cases version rest withPort with
          ⟨short, refused⟩ | ⟨host, port, later, rfl, shape, taken⟩
        · refine .inl ⟨?_, by rw [refused]; rfl⟩
          intro other same
          have version_eq : Family.ofTag? (Family.ip version).tag = some (.ip other) := by
            rw [Option.some.inj same, Family.ofTag?_tag]
          rw [Family.ofTag?_tag] at version_eq
          cases version_eq
          rw [size_tagged, List.length_cons]
          omega
        · refine .inr ⟨host, port, later, ?_, ?_⟩
          · rw [encode_tagged, List.cons_append, ← shape]
          · rw [taken, size_tagged]
            rfl
      | unspecified | path =>
        refine .inl ⟨?_, rfl⟩
        intro version same
        cases version <;> cases same

def encodeAll (tagged withPort : Bool) (addresses : List Address) : Bytes :=
  addresses.flatMap fun address => encode address tagged withPort

-- Takes addresses off the front of a buffer, each time dropping as many octets as it was said to
-- have taken, until no more can be taken or enough have been. What is left comes second.
def decodeAll (known : Option Family) (withPort : Bool) : (steps : Nat) → Bytes →
    List Address × Bytes
  | 0, buffer => ([], buffer)
  | steps + 1, buffer =>
    match decodeKnown known withPort buffer with
    | none => ([], buffer)
    | some (address, count) =>
      let later := decodeAll known withPort steps (buffer.drop count)
      (address :: later.1, later.2)

def Expects (known : Option Family) (address : Address) : Prop :=
  ∀ family, known = some family → address.family = family

theorem decodeKnown_encode {known : Option Family} {address : Address}
    (isIp : address.family.isIp = true) (expected : Expects known address) (withPort : Bool)
    (tail : Bytes) :
    decodeKnown known withPort (encode address known.isNone withPort ++ tail) =
      some (carried withPort address, size address.family known.isNone withPort) := by
  cases address with
  | ip host port =>
    cases known with
    | none => exact decode_encode host port withPort tail
    | some family =>
      cases expected family rfl
      exact decodeAs_encode host port withPort tail
  | unspecified | path => cases isIp

theorem decodeKnown_nil (known : Option Family) (withPort : Bool) :
    decodeKnown known withPort [] = none := by
  cases known with
  | none => rfl
  | some family =>
    cases family with
    | ip version =>
      rcases decodeAs_cases version [] withPort with ⟨-, refused⟩ | ⟨host, port, rest, -, shape, -⟩
      · exact refused
      · have count := congrArg List.length shape
        have positive := size_pos host.version false withPort
        rw [List.length_append, encode_length] at count
        change 0 = size (.ip host.version) false withPort + rest.length at count
        omega
    | unspecified | path => rfl

theorem decodeAll_encodeAll {known : Option Family} (withPort : Bool) {addresses : List Address}
    (expected : ∀ address ∈ addresses, address.family.isIp = true ∧ Expects known address)
    {steps : Nat} (enough : addresses.length ≤ steps) :
    decodeAll known withPort steps (encodeAll known.isNone withPort addresses) =
      (addresses.map (carried withPort), []) := by
  induction addresses generalizing steps with
  | nil =>
    cases steps with
    | zero => rfl
    | succ steps => simp [decodeAll, encodeAll, decodeKnown_nil]
  | cons address addresses ih =>
    cases steps with
    | zero => simp at enough
    | succ steps =>
      obtain ⟨isIp, known_family⟩ := expected address List.mem_cons_self
      have later := ih (fun other member => expected other (List.mem_cons_of_mem _ member))
        (Nat.le_of_succ_le_succ enough)
      have front : encodeAll known.isNone withPort (address :: addresses) =
          encode address known.isNone withPort ++ encodeAll known.isNone withPort addresses :=
        List.flatMap_cons
      simp only [decodeAll, front, decodeKnown_encode isIp known_family]
      rw [List.drop_left' (encode_length address known.isNone withPort), later]
      rfl

-- Every wire form tells where it ends, so that forms can stand one after another: tagged ones of
-- mixed families, untagged ones of the one family that is known.
structure SelfDelimiting (known : Option Family) (withPort : Bool) : Prop where
  one : ∀ address : Address, address.family.isIp = true → Expects known address → ∀ tail : Bytes,
    decodeKnown known withPort (encode address known.isNone withPort ++ tail) =
      some (carried withPort address, size address.family known.isNone withPort)
  stream : ∀ addresses : List Address,
    (∀ address ∈ addresses, address.family.isIp = true ∧ Expects known address) →
      ∀ steps, addresses.length ≤ steps →
        decodeAll known withPort steps (encodeAll known.isNone withPort addresses) =
          (addresses.map (carried withPort), [])

theorem selfDelimiting (known : Option Family) (withPort : Bool) :
    SelfDelimiting known withPort where
  one := fun _ isIp expected tail => decodeKnown_encode isIp expected withPort tail
  stream := fun _ expected _ enough => decodeAll_encodeAll withPort expected enough

theorem selfDelimiting_mixed :
    let addresses : List Address := [.ip (Ip.wrap .v6 1) 443, .ip (Ip.wrap .v4 0x7f000001) 80]
    (∀ address ∈ addresses, address.family.isIp = true ∧ Expects none address) ∧
      decodeAll none false 2 (encodeAll true false addresses) =
        ([.ip (Ip.wrap .v6 1) 0, .ip (Ip.wrap .v4 0x7f000001) 0], []) := by
  have expected : ∀ address ∈ ([.ip (Ip.wrap .v6 1) 443, .ip (Ip.wrap .v4 0x7f000001) 80] :
      List Address), address.family.isIp = true ∧ Expects none address := by
    intro address member
    refine ⟨?_, fun family known => nomatch known⟩
    rcases List.mem_cons.mp member with rfl | rest
    · rfl
    · cases List.mem_singleton.mp rest
      rfl
  exact ⟨expected, (selfDelimiting none false).stream _ expected 2 (by decide)⟩

end Wire
end AddressPool
