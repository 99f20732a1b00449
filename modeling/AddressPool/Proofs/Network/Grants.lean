import AddressPool.Proofs.Network.Exhaustion

namespace AddressPool.Network

section
variable {network start : Network} (same : network.block = start.block)
include same

theorem name_of_block : network.name = start.name := by
  rw [name, name, same]

theorem size_of_block : network.size = start.size := by
  rw [size, size, same]

theorem ipAt_of_block (offset : Nat) : network.ipAt offset = start.ipAt offset := by
  rw [ipAt, ipAt, same]

theorem mapped_of_block (identifier : Bytes) :
    network.mapped identifier = start.mapped identifier := by
  rw [mapped, mapped, mappedOffset, mappedOffset, size_of_block same, ipAt_of_block same]

theorem offset?_of_block (address : Address) :
    network.offset? address = start.offset? address := by
  rw [offset?, offset?, size_of_block same, same]

theorem manages_of_block {ip : Ip} : network.Manages ip ↔ start.Manages ip := by
  rw [Manages, Manages, size_of_block same, same]

end

-- Of the addresses that have been asked for, a network has granted what it can manage. An
-- address that is asked for again is not granted twice.
structure Grants (network start : Network) (asked : List Ip) : Prop where
  block_eq : network.block = start.block
  mem_iff : ∀ offset, offset ∈ network.reserved ↔
    offset < start.size ∧ start.ipAt offset ∈ asked

theorem Grants.ofBlock (block : Block) (generator : Generator) :
    (ofBlock block generator).Grants (ofBlock block generator) [] where
  block_eq := rfl
  mem_iff := by
    intro offset
    have free : offset ∉ (Network.ofBlock block generator).reserved := Std.ExtTreeSet.not_mem_empty
    simp [free]

theorem Grants.valid {network start : Network} {asked : List Ip}
    (grants : network.Grants start asked) : network.Valid := by
  intro offset held
  rw [size_of_block grants.block_eq]
  exact ((grants.mem_iff offset).mp held).1

theorem Grants.hold {network start : Network} {asked : List Ip} {ip : Ip}
    (grants : network.Grants start asked) (manages : start.Manages ip) :
    (network.hold (ip.value - start.block.base)).Grants start (asked ++ [ip]) where
  block_eq := grants.block_eq
  mem_iff := by
    intro offset
    have place : start.ipAt offset = ip ∧ offset < start.size ↔
        offset = ip.value - start.block.base := by
      constructor
      · intro known
        obtain ⟨rfl, managed⟩ := known
        rw [ipAt_value managed]
        omega
      · intro known
        have below := manages.2.2
        have above := manages.2.1
        exact ⟨by rw [known, manages.ipAt], by omega⟩
    rw [mem_hold, grants.mem_iff, List.mem_append, List.mem_singleton, ← place]
    tauto

theorem Grants.refuse {network start : Network} {asked : List Ip} {ip : Ip}
    (grants : network.Grants start asked) (refused : start.Manages ip → ip ∈ asked) :
    network.Grants start (asked ++ [ip]) where
  block_eq := grants.block_eq
  mem_iff := by
    intro offset
    rw [grants.mem_iff, List.mem_append, List.mem_singleton]
    constructor
    · intro known
      exact ⟨known.1, .inl known.2⟩
    · intro known
      obtain ⟨managed, prior | rfl⟩ := known
      · exact ⟨managed, prior⟩
      · exact ⟨managed, refused (manages_ipAt managed)⟩

theorem Grants.mem_asked {network start : Network} {asked : List Ip} {ip : Ip}
    (grants : network.Grants start asked) (manages : start.Manages ip) :
    ip.value - start.block.base ∈ network.reserved ↔ ip ∈ asked := by
  have below := manages.2.2
  have above := manages.2.1
  rw [grants.mem_iff, manages.ipAt]
  exact and_iff_right (by omega)

theorem Grants.reserve {network start : Network} {asked : List Ip}
    (grants : network.Grants start asked) (ip : Ip) :
    ((network.reserve (.ofIp ip)).value = true ↔ start.Manages ip ∧ ip ∉ asked) ∧
      (network.reserve (.ofIp ip)).network.Grants start (asked ++ [ip]) := by
  by_cases manages : start.Manages ip
  · have found : network.offset? (.ofIp ip) = some (ip.value - start.block.base) := by
      rw [← grants.block_eq]
      exact offset?_eq_some_iff.mpr ⟨ip, rfl, (manages_of_block grants.block_eq).mpr manages, rfl⟩
    by_cases again : ip ∈ asked
    · rw [reserve_taken found ((grants.mem_asked manages).mpr again)]
      exact ⟨by simp [again], grants.refuse fun _ => again⟩
    · rw [reserve_found found (mt (grants.mem_asked manages).mp again)]
      exact ⟨by simp [manages, again], grants.hold manages⟩
  · have absent : network.offset? (.ofIp ip) = none := by
      refine offset?_eq_none_iff.mpr fun other host inside => manages ?_
      cases host
      exact (manages_of_block grants.block_eq).mp inside
    rw [reserve_outside absent]
    exact ⟨by simp [manages], grants.refuse fun inside => absurd inside manages⟩

theorem Grants.reserveMapped {network start : Network} {asked : List Ip}
    (grants : network.Grants start asked) (identifier : Bytes) :
    (network.reserveMapped identifier).value = start.mapped identifier ∧
      (network.reserveMapped identifier).network.Grants start
        (asked ++ [start.mapped identifier]) := by
  have address : network.mapped identifier = start.mapped identifier :=
    mapped_of_block grants.block_eq identifier
  refine ⟨address, ?_⟩
  rw [← address]
  exact (grants.reserve (network.mapped identifier)).2

def Leaves (start : Network) (asked : List Ip) (ip : Ip) : Prop :=
  start.Manages ip ∧ ip ∉ asked ∧ (2 < start.size → ip ≠ start.first ∧ ip ≠ start.last)

instance (start : Network) (ip : Ip) : Decidable (start.Manages ip) :=
  inferInstanceAs (Decidable (_ ∧ _ ∧ _))

instance (start : Network) (asked : List Ip) (ip : Ip) : Decidable (start.Leaves asked ip) :=
  inferInstanceAs (Decidable (_ ∧ _ ∧ _))

def room (start : Network) (asked : List Ip) : Finset Nat :=
  (Finset.range start.size).filter fun offset => start.Leaves asked (start.ipAt offset)

theorem ne_first_iff {network : Network} {offset : Nat} (managed : offset < network.size) :
    network.ipAt offset ≠ network.first ↔ offset ≠ 0 :=
  not_congr (ipAt_eq_first_iff managed)

theorem ne_last_iff {network : Network} {offset : Nat} (managed : offset < network.size) :
    network.ipAt offset ≠ network.last ↔ network.block.base + offset ≠ network.block.last := by
  rw [ne_eq, Ip.ext_iff, ipAt_value managed, last_value]
  exact not_congr (and_iff_right rfl)

theorem Grants.spare_eq {network start : Network} {asked : List Ip}
    (grants : network.Grants start asked) : network.spare = start.room asked := by
  ext offset
  rw [mem_spare, grants.mem_iff, size_of_block grants.block_eq, grants.block_eq, room,
    Finset.mem_filter, Finset.mem_range]
  refine and_congr_right fun managed => ?_
  rw [Leaves, ne_first_iff managed, ne_last_iff managed, not_and, imp_iff_right managed]
  exact (and_iff_right (manages_ipAt managed)).symm

theorem Grants.leaves {network start : Network} {asked : List Ip} {offset : Nat}
    (grants : network.Grants start asked) (member : offset ∈ network.spare) :
    offset < start.size ∧ start.Leaves asked (start.ipAt offset) := by
  rw [grants.spare_eq] at member
  simpa [room] using member

end AddressPool.Network
