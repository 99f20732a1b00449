import AddressPool.Address.Header
import AddressPool.Proofs.Record.Trailing

namespace AddressPool.Header

-- Where a header has its addresses: the number of its version, the octets at which the source and
-- the destination begin, and the one behind both.
structure Layout where
  number : Nat
  source : Nat
  destination : Nat
  stop : Nat

def layout : Version → Layout
  | .v4 => ⟨4, 12, 16, 20⟩
  | .v6 => ⟨6, 8, 24, 40⟩

def StandsAt (header : Bytes) (start : Nat) (host : Ip) : Prop :=
  ∃ front rest, header = front ++ host.octets ++ rest ∧ front.length = start

def overwritten (header : Bytes) (start : Nat) (octets : Bytes) : Bytes :=
  header.take start ++ octets ++ header.drop (start + octets.length)

-- Headers of one version with the same octets, or the same lack of them, where the addresses are.
-- Everything else may differ.
structure Alike (header other : Bytes) : Prop where
  number_eq : versionNumber? other = versionNumber? header
  octet_eq : ∀ version, versionNumber? header = some (layout version).number →
    ∀ place, (layout version).source ≤ place → place < (layout version).stop →
      other[place]? = header[place]?

theorem version?_eq_some_iff {header : Bytes} {version : Version} :
    version? header = some version ↔ versionNumber? header = some (layout version).number := by
  unfold version?
  cases version <;> split <;> simp_all [layout]

theorem layout_spaced (version : Version) :
    (layout version).source + version.octetCount = (layout version).destination ∧
      (layout version).destination + version.octetCount = (layout version).stop := by
  cases version <;> decide

theorem exists_version {holds : Version → Prop} :
    (∃ version, holds version) ↔ holds .v4 ∨ holds .v6 := by
  constructor
  · rintro ⟨version, known⟩
    cases version with
    | v4 => exact .inl known
    | v6 => exact .inr known
  · rintro (known | known)
    · exact ⟨.v4, known⟩
    · exact ⟨.v6, known⟩

theorem standsAt_iff {header : Bytes} {start : Nat} {host : Ip} :
    StandsAt header start host ↔ start + host.version.octetCount ≤ header.length ∧
      Record.field header start host.version.octetCount = host.octets := by
  constructor
  · rintro ⟨front, rest, rfl, rfl⟩
    constructor
    · rw [List.length_append, List.length_append, host.octets_length]
      exact Nat.le_add_right _ _
    · rw [List.append_assoc]
      exact Record.field_append rfl host.octets_length
  · rintro ⟨inside, same⟩
    refine ⟨header.take start, header.drop (start + host.version.octetCount), ?_, ?_⟩
    · rw [← same, Record.field, ← List.drop_drop, List.append_assoc, List.take_append_drop,
        List.take_append_drop]
    · rw [List.length_take]
      omega

theorem addressAt_stands {header : Bytes} {start : Nat} {host : Ip}
    (stands : StandsAt header start host) :
    addressAt header host.version start = some (.ofIp host) := by
  have octets := (standsAt_iff.mp stands).2
  rw [Record.field] at octets
  rw [addressAt, octets, Ip.ofOctets?, if_pos host.octets_length, Ip.wrap_octets]
  rfl

theorem exists_standsAt {header : Bytes} {version : Version} {start : Nat}
    (inside : start + version.octetCount ≤ header.length) :
    ∃ host, host.version = version ∧ StandsAt header start host := by
  have octets := Ip.octets_wrap (Record.field_length inside)
  exact ⟨Ip.wrap version _, rfl, standsAt_iff.mpr ⟨inside, octets.symm⟩⟩

theorem addressAt_short {header : Bytes} {version : Version} {start : Nat}
    (short : header.length < start + version.octetCount) :
    addressAt header version start = none := by
  have some := Ip.octetCount_pos version
  have lacking : ((header.drop start).take version.octetCount).length ≠ version.octetCount := by
    rw [List.length_take, List.length_drop]
    omega
  rw [addressAt, Ip.ofOctets?, if_neg lacking]
  rfl

theorem addressAt_isSome_iff {header : Bytes} {version : Version} {start : Nat} :
    (addressAt header version start).isSome = true ↔
      start + version.octetCount ≤ header.length := by
  by_cases inside : start + version.octetCount ≤ header.length
  · obtain ⟨host, rfl, stands⟩ := exists_standsAt inside
    simp [addressAt_stands stands, inside]
  · simp [addressAt_short (Nat.lt_of_not_le inside), inside]

theorem addressAt_eq_some_iff {header : Bytes} {version : Version} {start : Nat}
    {address : Address} : addressAt header version start = some address ↔
      ∃ host, host.version = version ∧ StandsAt header start host ∧ address = .ofIp host := by
  constructor
  · intro found
    have inside := addressAt_isSome_iff.mp (Option.isSome_of_eq_some found)
    obtain ⟨host, rfl, stands⟩ := exists_standsAt inside
    rw [addressAt_stands stands] at found
    exact ⟨host, rfl, stands, (Option.some.inj found).symm⟩
  · rintro ⟨host, rfl, stands, rfl⟩
    exact addressAt_stands stands

def read? (start : Version → Nat) (header : Bytes) : Option Address := do
  let version ← version? header
  addressAt header version (start version)

theorem source?_eq (header : Bytes) :
    source? header = read? (fun version => (layout version).source) header := by
  have starts : sourceStart = fun version => (layout version).source := by
    funext version
    cases version <;> rfl
  rw [← starts]
  rfl

theorem destination?_eq (header : Bytes) :
    destination? header = read? (fun version => (layout version).destination) header := by
  have starts : destinationStart = fun version => (layout version).destination := by
    funext version
    cases version <;> rfl
  rw [← starts]
  rfl

theorem addresses?_eq (header : Bytes) :
    addresses? header = (source? header).bind fun source =>
      (destination? header).map fun destination => (source, destination) := by
  unfold addresses? source? destination?
  cases version? header with
  | none => rfl
  | some version =>
    simp only [Option.bind_eq_bind, Option.bind_some, Option.map_eq_bind]
    rfl

theorem addresses?_eq_some_iff {header : Bytes} {source destination : Address} :
    addresses? header = some (source, destination) ↔
      source? header = some source ∧ destination? header = some destination := by
  rw [addresses?_eq]
  cases source? header <;> cases destination? header <;> simp

section
variable {start : Version → Nat} {header : Bytes}

theorem read?_eq_some_iff {address : Address} :
    read? start header = some address ↔
      ∃ host, versionNumber? header = some (layout host.version).number ∧
        StandsAt header (start host.version) host ∧ address = .ofIp host := by
  simp only [read?, Option.bind_eq_bind, Option.bind_eq_some_iff, version?_eq_some_iff,
    addressAt_eq_some_iff]
  constructor
  · rintro ⟨version, number, host, rfl, stands, same⟩
    exact ⟨host, number, stands, same⟩
  · rintro ⟨host, number, stands, same⟩
    exact ⟨_, number, host, rfl, stands, same⟩

theorem read?_isSome_iff : (read? start header).isSome = true ↔
    ∃ version, versionNumber? header = some (layout version).number ∧
      start version + version.octetCount ≤ header.length := by
  simp only [read?, Option.bind_eq_bind, Option.isSome_bind, Option.any_eq_true,
    version?_eq_some_iff, addressAt_isSome_iff]

theorem read?_append {address : Address} (found : read? start header = some address)
    (tail : Bytes) : read? start (header ++ tail) = some address := by
  obtain ⟨host, number, ⟨front, rest, shape, length⟩, same⟩ := read?_eq_some_iff.mp found
  apply read?_eq_some_iff.mpr
  refine ⟨host, ?_, ⟨front, rest ++ tail, ?_, length⟩, same⟩
  · obtain ⟨first, head, -⟩ := Option.map_eq_some_iff.mp number
    rw [versionNumber?, List.head?_append, head, Option.some_or, ← head]
    exact number
  · rw [shape, List.append_assoc]

theorem read?_alike {other : Bytes} (alike : Alike header other)
    (above : ∀ version, (layout version).source ≤ start version)
    (below : ∀ version, start version + version.octetCount ≤ (layout version).stop) :
    read? start other = read? start header := by
  have versions : version? other = version? header := by
    rw [version?, version?, alike.number_eq]
  rw [read?, read?, versions]
  cases known : version? header with
  | none => rfl
  | some version =>
    have number := version?_eq_some_iff.mp known
    have octets : (other.drop (start version)).take version.octetCount =
        (header.drop (start version)).take version.octetCount := by
      apply List.ext_getElem?
      intro place
      rw [List.getElem?_take, List.getElem?_take, List.getElem?_drop, List.getElem?_drop]
      split
      · have lower := above version
        have upper := below version
        exact alike.octet_eq version number _ (by omega) (by omega)
      · rfl
    change addressAt other version (start version) = addressAt header version (start version)
    rw [addressAt, addressAt, octets]

end

theorem overwritten_twice {header : Bytes} {start next : Nat} {one : Bytes}
    (inside : start ≤ header.length) (length : start + one.length = next) (two : Bytes) :
    overwritten (overwritten header start one) next two =
      header.take start ++ one ++ two ++ header.drop (next + two.length) := by
  have front : (header.take start ++ one).length = next := by
    rw [List.length_append, List.length_take, Nat.min_eq_left inside, length]
  rw [overwritten, overwritten, List.take_left' front, ← List.drop_drop, List.drop_left' front,
    List.drop_drop, length]

theorem versionNumber?_take {header : Bytes} {start : Nat} (positive : 0 < start)
    (inside : start ≤ header.length) (rest : Bytes) :
    versionNumber? (header.take start ++ rest) = versionNumber? header := by
  cases header with
  | nil => exact absurd inside (Nat.not_le.mpr positive)
  | cons first later =>
    obtain ⟨before, rfl⟩ := Nat.exists_eq_succ_of_ne_zero (Nat.ne_of_gt positive)
    rfl

theorem source?_isSome_iff {header : Bytes} : (source? header).isSome = true ↔
    ∃ version, versionNumber? header = some (layout version).number ∧
      (layout version).destination ≤ header.length := by
  simp only [source?_eq, read?_isSome_iff, (layout_spaced _).1]

theorem destination?_isSome_iff {header : Bytes} : (destination? header).isSome = true ↔
    ∃ version, versionNumber? header = some (layout version).number ∧
      (layout version).stop ≤ header.length := by
  simp only [destination?_eq, read?_isSome_iff, (layout_spaced _).2]

theorem addresses?_isSome_iff {header : Bytes} : (addresses? header).isSome = true ↔
    ∃ version, versionNumber? header = some (layout version).number ∧
      (layout version).stop ≤ header.length := by
  have both : (addresses? header).isSome = true ↔
      (source? header).isSome = true ∧ (destination? header).isSome = true := by
    rw [addresses?_eq]
    cases source? header <;> cases destination? header <;> simp
  rw [both, source?_isSome_iff, destination?_isSome_iff]
  constructor
  · rintro ⟨-, found⟩
    exact found
  · rintro ⟨version, number, long⟩
    have spaced := (layout_spaced version).2
    exact ⟨⟨version, number, by omega⟩, version, number, long⟩

theorem source?_append {header : Bytes} {source : Address} (found : source? header = some source)
    (tail : Bytes) : source? (header ++ tail) = some source := by
  rw [source?_eq] at found ⊢
  exact read?_append found tail

theorem destination?_append {header : Bytes} {destination : Address}
    (found : destination? header = some destination) (tail : Bytes) :
    destination? (header ++ tail) = some destination := by
  rw [destination?_eq] at found ⊢
  exact read?_append found tail

theorem addresses?_append {header : Bytes} {both : Address × Address}
    (found : addresses? header = some both) (tail : Bytes) :
    addresses? (header ++ tail) = some both := by
  obtain ⟨source, destination⟩ := addresses?_eq_some_iff.mp found
  exact addresses?_eq_some_iff.mpr ⟨source?_append source tail, destination?_append destination tail⟩

theorem alike_same {header other : Bytes} (alike : Alike header other) :
    source? other = source? header ∧ destination? other = destination? header ∧
      addresses? other = addresses? header := by
  have source : source? other = source? header := by
    rw [source?_eq, source?_eq]
    apply read?_alike alike
    · exact fun version => Nat.le_refl _
    · intro version
      obtain ⟨first, second⟩ := layout_spaced version
      omega
  have destination : destination? other = destination? header := by
    rw [destination?_eq, destination?_eq]
    apply read?_alike alike
    · intro version
      obtain ⟨first, second⟩ := layout_spaced version
      omega
    · exact fun version => Nat.le_of_eq (layout_spaced version).2
  exact ⟨source, destination, by rw [addresses?_eq, addresses?_eq, source, destination]⟩

theorem addresses?_overwritten {header : Bytes} {source destination : Ip}
    (same : destination.version = source.version)
    (number : versionNumber? header = some (layout source.version).number)
    (long : (layout source.version).stop ≤ header.length) :
    addresses? (overwritten (overwritten header (layout source.version).source source.octets)
        (layout source.version).destination destination.octets) =
      some (.ofIp source, .ofIp destination) := by
  obtain ⟨first, second⟩ := layout_spaced source.version
  have positive : 0 < (layout source.version).source := by
    cases source.version <;> decide
  have inside : (layout source.version).source ≤ header.length := by omega
  have front : (header.take (layout source.version).source).length =
      (layout source.version).source := by
    rw [List.length_take, Nat.min_eq_left inside]
  have width := source.octets_length
  rw [overwritten_twice inside (by omega)]
  generalize header.drop _ = rest
  rw [addresses?_eq_some_iff, source?_eq, destination?_eq, read?_eq_some_iff, read?_eq_some_iff]
  constructor
  · refine ⟨source, ?_, ⟨_, destination.octets ++ rest, ?_, front⟩, rfl⟩
    · rw [List.append_assoc, List.append_assoc, versionNumber?_take positive inside, number]
    · rw [List.append_assoc]
  · refine ⟨destination, ?_, ⟨_, rest, rfl, ?_⟩, rfl⟩
    · rw [List.append_assoc, List.append_assoc, versionNumber?_take positive inside, number, same]
    · rw [List.length_append, front, width, first, same]

-- What is taken from a header, by its version number and its length, and by its octets.
structure Extracted (header : Bytes) : Prop where
  both_iff : ∀ source destination, addresses? header = some (source, destination) ↔
    source? header = some source ∧ destination? header = some destination
  both_isSome : (addresses? header).isSome = true ↔
    versionNumber? header = some 4 ∧ 20 ≤ header.length ∨
      versionNumber? header = some 6 ∧ 40 ≤ header.length
  source_isSome : (source? header).isSome = true ↔
    versionNumber? header = some 4 ∧ 16 ≤ header.length ∨
      versionNumber? header = some 6 ∧ 24 ≤ header.length
  source_iff : ∀ address, source? header = some address ↔
    ∃ host, versionNumber? header = some (layout host.version).number ∧
      StandsAt header (layout host.version).source host ∧ address = .ofIp host
  destination_iff : ∀ address, destination? header = some address ↔
    ∃ host, versionNumber? header = some (layout host.version).number ∧
      StandsAt header (layout host.version).destination host ∧ address = .ofIp host
  written : ∀ source destination : Ip, destination.version = source.version →
    versionNumber? header = some (layout source.version).number →
      (layout source.version).stop ≤ header.length →
        addresses? (overwritten (overwritten header (layout source.version).source source.octets)
            (layout source.version).destination destination.octets) =
          some (.ofIp source, .ofIp destination)
  unread : ∀ other, Alike header other → source? other = source? header ∧
    destination? other = destination? header ∧ addresses? other = addresses? header
  followed : ∀ tail,
    (∀ source, source? header = some source → source? (header ++ tail) = some source) ∧
      (∀ destination, destination? header = some destination →
        destination? (header ++ tail) = some destination) ∧
      ∀ both, addresses? header = some both → addresses? (header ++ tail) = some both

theorem addresses_extracted (header : Bytes) : Extracted header := by
  constructor
  case both_iff => exact fun _ _ => addresses?_eq_some_iff
  case both_isSome => exact addresses?_isSome_iff.trans exists_version
  case source_isSome => exact source?_isSome_iff.trans exists_version
  case source_iff =>
    intro address
    rw [source?_eq, read?_eq_some_iff]
  case destination_iff =>
    intro address
    rw [destination?_eq, read?_eq_some_iff]
  case written => exact fun _ _ => addresses?_overwritten
  case unread => exact fun _ => alike_same
  case followed =>
    intro tail
    refine ⟨?_, ?_, ?_⟩
    · exact fun _ found => source?_append found tail
    · exact fun _ found => destination?_append found tail
    · exact fun _ found => addresses?_append found tail

example : let header : Bytes := 0x45 :: List.replicate 15 0
    source? header = some (.ofIp (Ip.wrap .v4 0)) ∧ destination? header = none := by
  decide

end AddressPool.Header
