import AddressPool.Address.Record
import AddressPool.Proofs.Bytes
import AddressPool.Proofs.LocalPath

namespace AddressPool.Record

def ipFamily : Version → Nat
  | .v4 => v4Family
  | .v6 => v6Family

def gap : Version → Nat
  | .v4 => 0
  | .v6 => 4

def padding : Version → Nat
  | .v4 => 8
  | .v6 => 4

theorem encode_ip (host : Ip) (written : UInt16) :
    encode (.ip host written) = Bytes.littleEndian 2 (ipFamily host.version) ++
      (Bytes.bigEndian 2 written.toNat ++ (List.replicate (gap host.version) 0 ++
        (host.octets ++ List.replicate (padding host.version) 0))) := by
  cases version : host.version <;> simp [encode, version, ipFamily, gap, padding]

theorem size_ip (host : Ip) (written : UInt16) :
    size (.ip host written) =
      4 + gap host.version + host.version.octetCount + padding host.version := by
  cases version : host.version <;> simp only [size, version] <;> rfl

theorem size_path (name : LocalPath) : size (.path name) =
    if name.isAbstract then pathLength else min (familyLength + name.plain.length + 1) pathLength :=
  rfl

theorem size_of_plain {name other : LocalPath} (same : name.plain = other.plain) :
    size (.path name) = size (.path other) := by
  rw [size_path, size_path, LocalPath.isAbstract_of_plain same, same]

theorem size_path_le (name : LocalPath) : size (.path name) ≤ pathLength := by
  rw [size_path]
  split
  · exact Nat.le_refl _
  · exact Nat.min_le_right _ _

theorem encode_length (address : Address) : (encode address).length = size address := by
  cases address with
  | unspecified => rfl
  | ip host written =>
    rw [encode_ip, size_ip]
    simp only [List.length_append, Bytes.littleEndian_length, Bytes.bigEndian_length,
      List.length_replicate, host.octets_length]
    omega
  | path name =>
    have whole : (Bytes.littleEndian 2 pathFamily ++ name.raw).length = pathLength := by
      rw [List.length_append, Bytes.littleEndian_length, name.raw_length]
      rfl
    rw [encode, List.length_take, whole, Nat.min_eq_left (size_path_le name)]

theorem field_append {before middle after : Bytes} {start count : Nat}
    (first : before.length = start) (second : middle.length = count) :
    field (before ++ (middle ++ after)) start count = middle := by
  rw [field, List.drop_left' first, List.take_left' second]

theorem family_header {number : Nat} (small : number < 65536) (rest : Bytes) :
    Bytes.ofLittleEndian (field (Bytes.littleEndian 2 number ++ rest) 0 familyLength) = number := by
  have header : field ([] ++ (Bytes.littleEndian 2 number ++ rest)) 0 familyLength =
      Bytes.littleEndian 2 number :=
    field_append rfl (Bytes.littleEndian_length 2 number)
  rw [List.nil_append] at header
  rw [header, Bytes.ofLittleEndian_littleEndian]
  exact Nat.mod_eq_of_lt small

theorem port_header (number : Nat) (written : UInt16) (rest : Bytes) :
    port (Bytes.littleEndian 2 number ++ (Bytes.bigEndian 2 written.toNat ++ rest)) = written := by
  rw [port, field_append (Bytes.littleEndian_length 2 number) (Bytes.bigEndian_length 2 _),
    Bytes.port_bigEndian]

theorem host_field (host : Ip) (written : UInt16) :
    field (encode (.ip host written)) (4 + gap host.version) host.version.octetCount =
      host.octets := by
  rw [encode_ip, ← List.append_assoc, ← List.append_assoc]
  refine field_append ?_ host.octets_length
  simp only [List.length_append, Bytes.littleEndian_length, Bytes.bigEndian_length,
    List.length_replicate]

theorem read?_ip {version : Version} {record : Bytes}
    (family : Bytes.ofLittleEndian (field record 0 familyLength) = ipFamily version)
    (whole : 4 + gap version + version.octetCount + padding version ≤ record.length) :
    read? record = some (.ip (Ip.wrap version
      (Bytes.ofBigEndian (field record (4 + gap version) version.octetCount))) (port record)) := by
  unfold read?
  rw [family]
  cases version with
  | v4 => rw [if_pos ⟨rfl, whole⟩]; rfl
  | v6 =>
    rw [if_neg fun v4 => absurd v4.1 (by decide), if_pos ⟨rfl, whole⟩]
    rfl

theorem read?_path {record : Bytes}
    (family : Bytes.ofLittleEndian (field record 0 familyLength) = pathFamily)
    (some_name : familyLength < record.length) :
    read? record = some (.path (.ofBytes (field record familyLength LocalPath.capacity))) := by
  unfold read?
  rw [family, if_neg fun v4 => absurd v4.1 (by decide), if_neg fun v6 => absurd v6.1 (by decide),
    if_pos ⟨rfl, some_name⟩]

theorem decode_whole {record : Bytes} {address : Address} (header : familyLength ≤ record.length)
    (read : read? record = some address) (whole : size address ≤ record.length) :
    decode record = address := by
  unfold decode
  rw [if_neg (Nat.not_lt.mpr header), read]
  simp only [if_neg (Nat.not_lt.mpr whole)]

theorem decode_encode_ip (host : Ip) (written : UInt16) :
    decode (encode (.ip host written)) = .ip host written := by
  have length := encode_length (.ip host written)
  have family : Bytes.ofLittleEndian (field (encode (.ip host written)) 0 familyLength) =
      ipFamily host.version := by
    rw [encode_ip]
    exact family_header (by cases host.version <;> decide) _
  have number : port (encode (.ip host written)) = written := by
    rw [encode_ip]
    exact port_header _ _ _
  have read := read?_ip family (by rw [length, size_ip])
  rw [host_field, number, host.wrap_octets] at read
  refine decode_whole ?_ read (Nat.le_of_eq length.symm)
  rw [length, size_ip, familyLength]
  omega

-- A record holds as much of a name as there is in front of its first NUL, and that NUL if it
-- fits, unless the name is abstract.
def held (name : LocalPath) : Bytes :=
  if name.isAbstract then name.raw else name.raw.take (name.plain.length + 1)

theorem encode_path (name : LocalPath) :
    encode (.path name) = Bytes.littleEndian 2 pathFamily ++ held name := by
  have raw := name.raw_length
  have plain := name.plain_length_le
  have header := Bytes.littleEndian_length 2 pathFamily
  change (Bytes.littleEndian 2 pathFamily ++ name.raw).take (size (.path name)) = _
  rw [size_path]
  have whole : (Bytes.littleEndian 2 pathFamily ++ name.raw).length = pathLength := by
    rw [List.length_append, header, raw]
    rfl
  unfold held
  split
  · exact List.take_of_length_le (Nat.le_of_eq whole)
  · rw [← whole, ← List.take_eq_take_min, List.take_append, header, familyLength,
      List.take_of_length_le (by rw [header]; omega)]
    congr 2
    omega

theorem held_length (name : LocalPath) :
    0 < (held name).length ∧ (held name).length ≤ LocalPath.capacity := by
  have raw := name.raw_length
  have room : 0 < LocalPath.capacity := by decide
  unfold held
  split
  · omega
  · rw [List.length_take]
    omega

def kept (name : LocalPath) : LocalPath := if name.isAbstract then name else name.cut

theorem ofBytes_held (name : LocalPath) : LocalPath.ofBytes (held name) = kept name := by
  unfold held kept
  split
  · exact name.ofBytes_whole
  · exact name.ofBytes_take

theorem size_kept (name : LocalPath) : size (.path (kept name)) = size (.path name) := by
  unfold kept
  split
  · rfl
  · exact size_of_plain name.plain_cut

theorem decode_encode_path (name : LocalPath) :
    decode (encode (.path name)) = .path (kept name) := by
  have length := encode_length (.path name)
  have header : (Bytes.littleEndian 2 pathFamily).length = familyLength :=
    Bytes.littleEndian_length 2 pathFamily
  obtain ⟨some_name, fits⟩ := held_length name
  have family : Bytes.ofLittleEndian (field (encode (.path name)) 0 familyLength) =
      pathFamily := by
    rw [encode_path]
    exact family_header (by decide) _
  have long : familyLength < (encode (.path name)).length := by
    rw [encode_path, List.length_append, header]
    exact Nat.lt_add_of_pos_right some_name
  have name_field : field (encode (.path name)) familyLength LocalPath.capacity = held name := by
    rw [encode_path, field, List.drop_left' header, List.take_of_length_le fits]
  have read := read?_path family long
  rw [name_field, ofBytes_held] at read
  refine decode_whole (Nat.le_of_lt long) read ?_
  rw [size_kept, length]

theorem kept_eq_iff {name : LocalPath} : kept name = name ↔ ¬name.Trailed := by
  unfold kept LocalPath.Trailed
  cases name.isAbstract with
  | true => simp
  | false => simp [LocalPath.cut_eq_iff]

-- A record gives back the address it was made from, except for a name that goes on behind its
-- first NUL without being abstract.
structure RoundTrip (address : Address) : Prop where
  length_eq : (encode address).length = size address
  survives_iff : decode (encode address) = address ↔
    ¬∃ name, address = .path name ∧ name.Trailed
  cut : ∀ name, address = .path name → name.Trailed →
    decode (encode address) = .path name.cut
  ip : address.family.isIp = true → decode (encode address) = address
  unspecified : address = .unspecified → decode (encode address) = address
  abstract : ∀ name, address = .path name → name.isAbstract = true →
    decode (encode address) = address
  plain : ∀ octets : Bytes, address = .path (.ofBytes octets) →
    octets.length ≤ LocalPath.capacity → (∀ octet ∈ octets, octet ≠ 0) →
      decode (encode address) = address

theorem survives_iff (address : Address) :
    decode (encode address) = address ↔ ¬∃ name, address = .path name ∧ name.Trailed := by
  cases address with
  | unspecified => exact ⟨fun _ trailed => (nomatch trailed.choose_spec.1), fun _ => rfl⟩
  | ip host written =>
    exact ⟨fun _ trailed => (nomatch trailed.choose_spec.1), fun _ => decode_encode_ip host written⟩
  | path name => simp [decode_encode_path, kept_eq_iff]

theorem record_roundTrip (address : Address) : RoundTrip address where
  length_eq := encode_length address
  survives_iff := survives_iff address
  cut := by
    intro name same trailed
    rw [same, decode_encode_path, kept, if_neg (by simp [trailed.1])]
  ip := by
    intro isIp
    refine (survives_iff address).mpr fun trailed => ?_
    rw [trailed.choose_spec.1] at isIp
    cases isIp
  unspecified := by
    intro same
    rw [same]
    rfl
  abstract := by
    intro name same outside
    rw [same, decode_encode_path, kept, if_pos outside]
  plain := by
    intro octets same fits noNul
    refine (survives_iff address).mpr fun trailed => ?_
    obtain ⟨name, other, -, octet, member, nonzero⟩ := trailed
    cases same.symm.trans other
    have whole : (LocalPath.ofBytes octets).cut = LocalPath.ofBytes octets := by
      rw [LocalPath.cut, LocalPath.plain_ofBytes fits noNul]
    exact nonzero (LocalPath.cut_eq_iff.mp whole octet member)

example : decode (encode (.path (.ofBytes [47, 97, 0, 98]))) = .path (.ofBytes [47, 97]) := by
  decide

end AddressPool.Record
