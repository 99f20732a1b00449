import AddressPool.Proofs.Record.RoundTrip

namespace AddressPool.Record

-- A buffer off a socket has any length and any octets. Whether there is a record at its front is
-- said here by family number, length and closing NUL alone, not by what is read from it.

def family (record : Bytes) : Nat := Bytes.ofLittleEndian (field record 0 familyLength)

def ipLength (version : Version) : Nat :=
  4 + gap version + version.octetCount + padding version

def HoldsIp (version : Version) (record : Bytes) : Prop :=
  family record = ipFamily version ∧ ipLength version ≤ record.length

def HoldsName (record : Bytes) : Prop :=
  family record = pathFamily ∧ (110 ≤ record.length ∨
    3 ≤ record.length ∧ record.length ≤ 109 ∧ record[2]? ≠ some 0 ∧ 0 ∈ record.drop 3)

def ipOf (version : Version) (record : Bytes) : Ip :=
  Ip.wrap version (Bytes.ofBigEndian (field record (4 + gap version) version.octetCount))

def nameOf (record : Bytes) : LocalPath := .ofBytes (field record familyLength LocalPath.capacity)

theorem field_length {record : Bytes} {start count : Nat} (inside : start + count ≤ record.length) :
    (field record start count).length = count := by
  rw [field, List.length_take, List.length_drop]
  omega

theorem decode_ip {version : Version} {record : Bytes} (holds : HoldsIp version record) :
    decode record = .ip (ipOf version record) (port record) := by
  obtain ⟨number, whole⟩ := holds
  apply decode_whole
  · rw [ipLength] at whole
    rw [familyLength]
    omega
  · exact read?_ip number whole
  · rw [size_ip]
    exact whole

theorem ipOf_octets {version : Version} {record : Bytes}
    (whole : ipLength version ≤ record.length) :
    (ipOf version record).octets = field record (4 + gap version) version.octetCount := by
  apply Ip.octets_wrap
  apply field_length
  rw [ipLength] at whole
  omega

theorem port_octets {record : Bytes} (whole : 4 ≤ record.length) :
    Bytes.bigEndian 2 (port record).toNat = field record 2 2 :=
  Bytes.bigEndian_port (field_length whole)

theorem family_octets {record : Bytes} (whole : familyLength ≤ record.length) :
    Bytes.littleEndian 2 (family record) = field record 0 familyLength := by
  have length : (field record 0 familyLength).length = 2 := field_length whole
  have back := Bytes.littleEndian_ofLittleEndian (field record 0 familyLength)
  rwa [length] at back

-- A name that does not fill its record is not abstract, and there is room behind it for the NUL
-- that closes it.
theorem size_short {octets : Bytes} (short : octets.length < LocalPath.capacity) :
    size (.path (.ofBytes octets)) ≤ familyLength + octets.length ↔
      octets[0]? ≠ some 0 ∧ 0 ∈ octets.drop 1 := by
  have plain := LocalPath.plain_padded (Nat.le_of_lt short)
  have closed : size (.path (.ofBytes octets)) ≤ familyLength + octets.length ↔
      (LocalPath.ofBytes octets).isAbstract = false ∧
        (octets.takeWhile (· != 0)).length < octets.length := by
    rw [size_path, plain, pathLength]
    split
    · rename_i abstract
      simp only [abstract, Bool.true_eq_false, false_and, iff_false]
      omega
    · rename_i named
      simp only [Bool.not_eq_true] at named
      simp only [named, true_and]
      omega
  rw [closed, ← Bool.not_eq_true, LocalPath.isAbstract_iff, plain, LocalPath.stops_iff]
  cases octets with
  | nil => simp
  | cons first rest =>
    by_cases zero : first = 0
    · simp [zero]
    · simp [zero, Ne.symm zero]

theorem holdsName_iff {record : Bytes} (number : family record = pathFamily)
    (some_name : familyLength < record.length) :
    HoldsName record ↔ size (.path (nameOf record)) ≤ record.length := by
  have bound := size_path_le (nameOf record)
  by_cases full : pathLength ≤ record.length
  · exact ⟨fun _ => Nat.le_trans bound full, fun _ => ⟨number, .inl full⟩⟩
  · have short : (record.drop familyLength).length < LocalPath.capacity := by
      rw [pathLength] at full
      rw [List.length_drop]
      omega
    have name : nameOf record = .ofBytes (record.drop familyLength) := by
      rw [nameOf, field, List.take_of_length_le (Nat.le_of_lt short)]
    have whole : familyLength + (record.drop familyLength).length = record.length := by
      rw [List.length_drop]
      omega
    have closes := size_short short
    rw [whole, ← name, List.getElem?_drop, List.drop_drop] at closes
    rw [closes]
    constructor
    · intro holds
      obtain ⟨-, long | ⟨-, -, named, closed⟩⟩ := holds
      · exact absurd long full
      · exact ⟨named, closed⟩
    · intro known
      obtain ⟨named, closed⟩ := known
      refine ⟨number, .inr ⟨some_name, ?_, named, closed⟩⟩
      exact Nat.le_of_lt_succ (Nat.not_le.mp full)

theorem HoldsName.long {record : Bytes} (holds : HoldsName record) :
    familyLength < record.length := by
  obtain ⟨-, long | ⟨long, -⟩⟩ := holds
  · exact Nat.lt_of_lt_of_le (by decide) long
  · exact long

theorem HoldsName.size_le {record : Bytes} (holds : HoldsName record) :
    size (.path (nameOf record)) ≤ record.length :=
  (holdsName_iff holds.1 holds.long).mp holds

theorem decode_name {record : Bytes} (holds : HoldsName record) :
    decode record = .path (nameOf record) :=
  decode_whole (Nat.le_of_lt holds.long) (read?_path holds.1 holds.long) holds.size_le

theorem read?_cases {record : Bytes} (noIp : ∀ version, ¬HoldsIp version record) :
    (family record = pathFamily ∧ familyLength < record.length) ∨
      read? record = some .unspecified ∨ read? record = none := by
  have noV4 : ¬(Bytes.ofLittleEndian (field record 0 familyLength) = v4Family ∧
      v4Length ≤ record.length) := noIp .v4
  have noV6 : ¬(Bytes.ofLittleEndian (field record 0 familyLength) = v6Family ∧
      v6Length ≤ record.length) := noIp .v6
  simp only [read?, if_neg noV4, if_neg noV6]
  split
  · rename_i path
    exact .inl path
  · split
    · exact .inr (.inl rfl)
    · exact .inr (.inr rfl)

theorem decode_nothing {record : Bytes} (noIp : ∀ version, ¬HoldsIp version record)
    (noName : ¬HoldsName record) : decode record = .unspecified := by
  unfold decode
  split
  · rfl
  · rcases read?_cases noIp with ⟨number, long⟩ | read | read
    · have short := mt (holdsName_iff number long).mpr noName
      rw [read?_path number long]
      exact if_pos (Nat.not_le.mp short)
    · rw [read]
      exact if_neg (Nat.not_lt_zero _)
    · rw [read]

theorem decode_cases (record : Bytes) :
    (∃ version, HoldsIp version record ∧
      decode record = .ip (ipOf version record) (port record)) ∨
    (HoldsName record ∧ decode record = .path (nameOf record)) ∨
    ((∀ version, ¬HoldsIp version record) ∧ ¬HoldsName record ∧ decode record = .unspecified) := by
  by_cases ip : ∃ version, HoldsIp version record
  · obtain ⟨version, holds⟩ := ip
    exact .inl ⟨version, holds, decode_ip holds⟩
  · have noIp : ∀ version, ¬HoldsIp version record := fun version holds => ip ⟨version, holds⟩
    by_cases name : HoldsName record
    · exact .inr (.inl ⟨name, decode_name name⟩)
    · exact .inr (.inr ⟨noIp, name, decode_nothing noIp name⟩)

theorem decode_ip_iff (version : Version) (record : Bytes) :
    (∃ host written, decode record = .ip host written ∧ host.version = version) ↔
      HoldsIp version record := by
  constructor
  · intro decoded
    obtain ⟨host, written, decoded, same⟩ := decoded
    rcases decode_cases record with ⟨other, holds, read⟩ | ⟨-, read⟩ | ⟨-, -, read⟩
    · cases read.symm.trans decoded
      cases same
      exact holds
    · cases read.symm.trans decoded
    · cases read.symm.trans decoded
  · intro holds
    exact ⟨_, _, decode_ip holds, rfl⟩

theorem decode_path_iff (record : Bytes) :
    (∃ name, decode record = .path name) ↔ HoldsName record := by
  constructor
  · intro decoded
    obtain ⟨name, decoded⟩ := decoded
    rcases decode_cases record with ⟨version, -, read⟩ | ⟨holds, -⟩ | ⟨-, -, read⟩
    · cases read.symm.trans decoded
    · exact holds
    · cases read.symm.trans decoded
  · intro holds
    exact ⟨_, decode_name holds⟩

theorem decode_unspecified_iff (record : Bytes) :
    decode record = .unspecified ↔
      (∀ version, ¬HoldsIp version record) ∧ ¬HoldsName record := by
  constructor
  · intro decoded
    constructor
    · intro version holds
      cases decoded.symm.trans (decode_ip holds)
    · intro holds
      cases decoded.symm.trans (decode_name holds)
  · intro known
    exact decode_nothing known.1 known.2

def zeroed (start count : Nat) (octets : Bytes) : Bytes :=
  octets.take start ++ (List.replicate count 0 ++ octets.drop (start + count))

theorem zeroed_append {before middle after : Bytes} {start count : Nat}
    (first : before.length = start) (second : middle.length = count) :
    zeroed start count (before ++ (middle ++ after)) =
      before ++ (List.replicate count 0 ++ after) := by
  have both : (before ++ middle).length = start + count := by simp [first, second]
  have rest : (before ++ (middle ++ after)).drop (start + count) = after := by
    rw [← List.append_assoc, List.drop_left' both]
  rw [zeroed, List.take_left' first, rest]

theorem zeroed_none (start : Nat) (octets : Bytes) : zeroed start 0 octets = octets := by
  simp [zeroed]

theorem take_ipLength (version : Version) (record : Bytes) :
    record.take (ipLength version) =
      (field record 0 2 ++ field record 2 2) ++ (field record 4 (gap version) ++
        (field record (4 + gap version) version.octetCount ++
          field record (4 + gap version + version.octetCount) (padding version))) := by
  have front : record.take (2 + 2) = field record 0 2 ++ field record 2 2 := List.take_add
  rw [ipLength, List.take_add, List.take_add, List.take_add, front]
  simp only [field, List.append_assoc]

theorem encode_ipOf {version : Version} {record : Bytes} (holds : HoldsIp version record) :
    encode (.ip (ipOf version record) (port record)) =
      zeroed (4 + gap version + version.octetCount) (padding version)
        (zeroed 4 (gap version) (record.take (ipLength version))) := by
  obtain ⟨number, whole⟩ := holds
  have long := whole
  rw [ipLength] at long
  have readable : familyLength ≤ record.length := by
    rw [familyLength]
    omega
  have header := family_octets readable
  have written := port_octets (show 4 ≤ record.length by omega)
  have first : (field record 0 2 ++ field record 2 2).length = 4 := by
    rw [List.length_append, field_length (by omega), field_length (by omega)]
  have second : (field record 4 (gap version)).length = gap version := field_length (by omega)
  have third : (field record (4 + gap version) version.octetCount).length = version.octetCount :=
    field_length (by omega)
  have last : (field record (4 + gap version + version.octetCount) (padding version)).length =
      padding version := field_length (by omega)
  have before : ((field record 0 2 ++ field record 2 2) ++ (List.replicate (gap version) 0 ++
      field record (4 + gap version) version.octetCount)).length =
        4 + gap version + version.octetCount := by
    rw [List.length_append, first, List.length_append, third, List.length_replicate]
    omega
  have behind : zeroed _ _ (_ ++ (_ ++ [])) = _ := zeroed_append before last
  rw [take_ipLength, zeroed_append first second]
  simp only [List.append_assoc, List.append_nil] at behind ⊢
  rw [behind, encode_ip, ipOf_octets whole, written]
  change Bytes.littleEndian 2 (ipFamily version) ++ _ = _
  rw [← number, header]
  rfl

theorem encode_nameOf {record : Bytes} (holds : HoldsName record) :
    encode (.path (nameOf record)) = record.take (size (.path (nameOf record))) := by
  have header := family_octets (Nat.le_of_lt holds.long)
  have inside := holds.size_le
  have bound := size_path_le (nameOf record)
  have whole : Bytes.littleEndian 2 pathFamily ++ (nameOf record).raw = record.take pathLength ++
      List.replicate
        (LocalPath.capacity - (field record familyLength LocalPath.capacity).length) 0 := by
    have front : record.take pathLength =
        field record 0 familyLength ++ field record familyLength LocalPath.capacity := List.take_add
    rw [← holds.1, header, front, List.append_assoc]
    congr 1
    exact LocalPath.ofBytes_raw (by rw [field, List.length_take]; exact Nat.min_le_left _ _)
  rw [encode, whole, List.take_append_of_le_length (by rw [List.length_take]; omega),
    List.take_take, Nat.min_eq_left bound]

-- Exactly the buffers that begin with a whole record are read, and what is read is the record: made
-- a record again, it gives back the octets that were there, with zeros where no field is.
structure Accepts (record : Bytes) : Prop where
  v4_iff : (∃ host written, decode record = .ip host written ∧ host.version = .v4) ↔
    family record = 2 ∧ 16 ≤ record.length
  v6_iff : (∃ host written, decode record = .ip host written ∧ host.version = .v6) ↔
    family record = 10 ∧ 28 ≤ record.length
  path_iff : (∃ name, decode record = .path name) ↔
    family record = 1 ∧ (110 ≤ record.length ∨
      3 ≤ record.length ∧ record.length ≤ 109 ∧ record[2]? ≠ some 0 ∧ 0 ∈ record.drop 3)
  unspecified_iff : decode record = .unspecified ↔
    (∀ version, ¬HoldsIp version record) ∧ ¬HoldsName record
  v4_fields : ∀ host written, decode record = .ip host written → host.version = .v4 →
    host.octets = field record 4 4 ∧ Bytes.bigEndian 2 written.toNat = field record 2 2
  v6_fields : ∀ host written, decode record = .ip host written → host.version = .v6 →
    host.octets = field record 8 16 ∧ Bytes.bigEndian 2 written.toNat = field record 2 2
  size_le : decode record ≠ .unspecified → size (decode record) ≤ record.length
  path_encode : ∀ name, decode record = .path name →
    encode (.path name) = record.take (size (.path name))
  v4_encode : ∀ host written, decode record = .ip host written → host.version = .v4 →
    size (.ip host written) = 16 ∧ encode (.ip host written) = zeroed 8 8 (record.take 16)
  v6_encode : ∀ host written, decode record = .ip host written → host.version = .v6 →
    size (.ip host written) = 28 ∧
      encode (.ip host written) = zeroed 24 4 (zeroed 4 4 (record.take 28))

theorem decode_ip_eq {version : Version} {record : Bytes} {host : Ip} {written : UInt16}
    (decoded : decode record = .ip host written) (same : host.version = version) :
    HoldsIp version record ∧ host = ipOf version record ∧ written = port record := by
  have holds := (decode_ip_iff version record).mp ⟨host, written, decoded, same⟩
  have read := Address.ip.inj (decoded.symm.trans (decode_ip holds))
  exact ⟨holds, read⟩

theorem decode_path_eq {record : Bytes} {name : LocalPath} (decoded : decode record = .path name) :
    HoldsName record ∧ name = nameOf record := by
  have holds := (decode_path_iff record).mp ⟨name, decoded⟩
  cases decoded.symm.trans (decode_name holds)
  exact ⟨holds, rfl⟩

theorem decode_fields {version : Version} {record : Bytes} {host : Ip} {written : UInt16}
    (decoded : decode record = .ip host written) (same : host.version = version) :
    host.octets = field record (4 + gap version) version.octetCount ∧
      Bytes.bigEndian 2 written.toNat = field record 2 2 := by
  obtain ⟨holds, rfl, rfl⟩ := decode_ip_eq decoded same
  have whole := holds.2
  refine ⟨ipOf_octets whole, port_octets ?_⟩
  rw [ipLength] at whole
  omega

theorem decode_encode {version : Version} {record : Bytes} {host : Ip} {written : UInt16}
    (decoded : decode record = .ip host written) (same : host.version = version) :
    size (.ip host written) = ipLength version ∧
      encode (.ip host written) = zeroed (4 + gap version + version.octetCount) (padding version)
        (zeroed 4 (gap version) (record.take (ipLength version))) := by
  obtain ⟨holds, rfl, rfl⟩ := decode_ip_eq decoded same
  exact ⟨size_ip _ _, encode_ipOf holds⟩

theorem decode_size_le {record : Bytes} (some_address : decode record ≠ .unspecified) :
    size (decode record) ≤ record.length := by
  rcases decode_cases record with ⟨version, holds, read⟩ | ⟨holds, read⟩ | ⟨-, -, read⟩
  · rw [read, size_ip]
    exact holds.2
  · rw [read]
    exact holds.size_le
  · exact absurd read some_address

theorem decode_accepts (record : Bytes) : Accepts record where
  v4_iff := decode_ip_iff .v4 record
  v6_iff := decode_ip_iff .v6 record
  path_iff := decode_path_iff record
  unspecified_iff := decode_unspecified_iff record
  v4_fields := fun _ _ => decode_fields
  v6_fields := fun _ _ => decode_fields
  size_le := decode_size_le
  path_encode := by
    intro name decoded
    obtain ⟨holds, rfl⟩ := decode_path_eq decoded
    exact encode_nameOf holds
  v4_encode := by
    intro host written decoded same
    obtain ⟨length, octets⟩ := decode_encode decoded same
    refine ⟨length, octets.trans ?_⟩
    exact congrArg (zeroed 8 8) (zeroed_none 4 _)
  v6_encode := fun _ _ => decode_encode

end AddressPool.Record
