import AddressPool.Proofs.Record.Acceptance

namespace AddressPool.Record

-- A record stands at the front of a buffer, and the buffer may go on behind it. What is read does
-- not depend on the octets there, except for the name of a socket that ends before its record is
-- full: they become part of the name, behind the NUL that ends it.

section
variable {record : Bytes} (tail : Bytes)

theorem field_before {start count : Nat} (inside : start + count ≤ record.length) :
    field (record ++ tail) start count = field record start count := by
  rw [field, field, List.drop_append_of_le_length (by omega),
    List.take_append_of_le_length (by rw [List.length_drop]; omega)]

theorem family_append (readable : familyLength ≤ record.length) :
    family (record ++ tail) = family record := by
  rw [family, family, field_before tail (by omega)]

theorem decode_ip_append {version : Version} (holds : HoldsIp version record) :
    decode (record ++ tail) = decode record := by
  obtain ⟨number, whole⟩ := holds
  have long := whole
  rw [ipLength] at long
  have further : HoldsIp version (record ++ tail) := by
    refine ⟨?_, ?_⟩
    · rw [family_append tail (by rw [familyLength]; omega), number]
    · rw [List.length_append]
      omega
  rw [decode_ip further, decode_ip ⟨number, whole⟩, ipOf, ipOf, port, port,
    field_before tail (by omega), field_before tail (by omega)]

theorem HoldsName.append (holds : HoldsName record) : HoldsName (record ++ tail) := by
  have readable := Nat.le_of_lt holds.long
  obtain ⟨number, room⟩ := holds
  refine ⟨by rw [family_append tail readable, number], ?_⟩
  rw [List.length_append]
  rcases room with full | ⟨least, -, named, closed⟩
  · exact .inl (by omega)
  by_cases full : 110 ≤ record.length + tail.length
  · exact .inl full
  · refine .inr ⟨by omega, by omega, ?_, ?_⟩
    · rwa [List.getElem?_append_left least]
    · rw [List.drop_append_of_le_length least]
      exact List.mem_append_left _ closed

def absorbed (record tail : Bytes) : Bytes := tail.take (pathLength - record.length)

theorem name_field_append (readable : familyLength ≤ record.length) :
    field (record ++ tail) familyLength LocalPath.capacity =
      field record familyLength LocalPath.capacity ++ absorbed record tail := by
  have room : LocalPath.capacity - (record.length - familyLength) =
      pathLength - record.length := by
    rw [pathLength]
    omega
  rw [field, List.drop_append_of_le_length readable, List.take_append, List.length_drop, room]
  rfl

theorem name_field_fits (readable : familyLength ≤ record.length) :
    (field record familyLength LocalPath.capacity ++ absorbed record tail).length ≤
      LocalPath.capacity := by
  rw [← name_field_append tail readable, field, List.length_take]
  exact Nat.min_le_left _ _

theorem nameOf_append_iff (readable : familyLength ≤ record.length) :
    nameOf (record ++ tail) = nameOf record ↔ ∀ octet ∈ absorbed record tail, octet = 0 := by
  rw [nameOf, nameOf, name_field_append tail readable]
  exact LocalPath.ofBytes_append_iff (name_field_fits tail readable)

theorem absorbed_full (full : pathLength ≤ record.length) : absorbed record tail = [] := by
  rw [absorbed, Nat.sub_eq_zero_of_le full, List.take_zero]

theorem plain_nameOf_append (holds : HoldsName record) :
    (nameOf (record ++ tail)).plain = (nameOf record).plain := by
  have readable := Nat.le_of_lt holds.long
  have fits := name_field_fits tail readable
  rw [nameOf, nameOf, name_field_append tail readable]
  obtain ⟨-, full | ⟨least, most, -, closed⟩⟩ := holds
  · rw [absorbed_full tail full, List.append_nil]
  · apply LocalPath.plain_append fits
    have short : (record.drop familyLength).length ≤ LocalPath.capacity := by
      rw [List.length_drop, familyLength, LocalPath.capacity]
      omega
    rw [field, List.take_of_length_le short]
    exact List.mem_of_mem_drop (show 0 ∈ (record.drop familyLength).drop 1 by
      rwa [List.drop_drop])

theorem encode_nameOf_append (holds : HoldsName record) :
    encode (.path (nameOf (record ++ tail))) = encode (.path (nameOf record)) := by
  rw [encode_nameOf (holds.append tail), encode_nameOf holds,
    size_of_plain (plain_nameOf_append tail holds),
    List.take_append_of_le_length holds.size_le]

end

-- What octets behind a record do to the address that is read.
structure Followed (record tail : Bytes) : Prop where
  same_iff : decode (record ++ tail) = decode record ↔
    ∀ name, decode record = .path name →
      ∀ octet ∈ tail.take (pathLength - record.length), octet = 0
  ip : (decode record).family.isIp = true → decode (record ++ tail) = decode record
  full : pathLength ≤ record.length → decode (record ++ tail) = decode record
  abstract : ∀ name, decode record = .path name → name.isAbstract = true →
    decode (record ++ tail) = decode record
  encode_eq : encode (decode (record ++ tail)) = encode (decode record)
  cut_eq : ∀ name, decode record = .path name →
    ∃ other, decode (record ++ tail) = .path other ∧ other.cut = name.cut

theorem followed_ip {version : Version} {record : Bytes} (holds : HoldsIp version record)
    (tail : Bytes) : Followed record tail := by
  have same := decode_ip_append tail holds
  have read := decode_ip holds
  refine ⟨iff_of_true same fun name named => ?_, fun _ => same, fun _ => same, fun _ _ _ => same,
    congrArg encode same, fun name named => ?_⟩
  · cases read.symm.trans named
  · cases read.symm.trans named

theorem followed_name {record : Bytes} (holds : HoldsName record) (tail : Bytes) :
    Followed record tail := by
  have read := decode_name holds
  have further := decode_name (holds.append tail)
  have same_iff : decode (record ++ tail) = decode record ↔
      ∀ octet ∈ absorbed record tail, octet = 0 := by
    rw [read, further, Address.path.injEq]
    exact nameOf_append_iff tail (Nat.le_of_lt holds.long)
  have full : pathLength ≤ record.length → decode (record ++ tail) = decode record := by
    intro whole
    rw [same_iff, absorbed_full tail whole]
    exact List.forall_mem_nil _
  constructor
  case same_iff =>
    rw [same_iff]
    exact ⟨fun zeros _ _ => zeros, fun zeros => zeros _ read⟩
  case ip =>
    intro isIp
    rw [read] at isIp
    cases isIp
  case full => exact full
  case abstract =>
    intro name named outside
    cases read.symm.trans named
    have size : size (.path (nameOf record)) = pathLength := if_pos outside
    exact full (size ▸ holds.size_le)
  case encode_eq =>
    rw [read, further]
    exact encode_nameOf_append tail holds
  case cut_eq =>
    intro name named
    cases read.symm.trans named
    exact ⟨_, further, congrArg LocalPath.ofBytes (plain_nameOf_append tail holds)⟩

theorem decode_followed {record : Bytes} (known : decode record ≠ .unspecified) (tail : Bytes) :
    Followed record tail := by
  rcases decode_cases record with ⟨version, holds, -⟩ | ⟨holds, -⟩ | ⟨-, -, nothing⟩
  · exact followed_ip holds tail
  · exact followed_name holds tail
  · exact absurd nothing known

theorem decode_followed_stale :
    let record : Bytes := [1, 0, 47, 102, 111, 111, 0]
    decode record ≠ .unspecified ∧ Followed record [98] :=
  ⟨by decide, decode_followed (by decide) _⟩

-- The octet is no part of the record, but the address is another one.
theorem decode_append_differs :
    let record : Bytes := [1, 0, 47, 102, 111, 111, 0]
    decode record = .path (.ofBytes [47, 102, 111, 111]) ∧
      record.length = size (decode record) ∧
        decode (record ++ [98]) = .path (.ofBytes [47, 102, 111, 111, 0, 98]) ∧
          decode (record ++ [98]) ≠ decode record := by
  decide

end AddressPool.Record
