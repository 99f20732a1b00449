import AddressPool.Network.Session
import AddressPool.Proofs.Block
import Mathlib.Data.Finset.Card
import Mathlib.Data.Finset.Image

namespace AddressPool.Network

-- Distances and addresses are two views of one network. The laws here carry facts from one to
-- the other: below the size every distance has an address of its own inside the network.

theorem size_eq (network : Network) :
    network.size = min (2 ^ network.block.hostBits) (2 ^ 64 - 1) := by
  rw [size]
  split
  · rename_i wide
    have more : 2 ^ 64 ≤ 2 ^ network.block.hostBits :=
      Nat.pow_le_pow_right (by decide) wide
    rw [Nat.one_shiftLeft]
    omega
  · rename_i narrow
    have fewer : 2 ^ network.block.hostBits < 2 ^ 64 :=
      Nat.pow_lt_pow_right (by decide) (by omega)
    rw [Nat.one_shiftLeft]
    omega

theorem size_pos (network : Network) : 0 < network.size := by
  have some : 0 < 2 ^ network.block.hostBits := Nat.two_pow_pos _
  rw [size_eq]
  omega

theorem size_le_hostMask (network : Network) : network.size ≤ network.block.hostMask + 1 := by
  rw [size_eq, Block.hostMask_eq]
  omega

theorem base_add_le_last {network : Network} {offset : Nat} (managed : offset < network.size) :
    network.block.base + offset ≤ network.block.last := by
  have bound := network.size_le_hostMask
  rw [Block.last_eq]
  omega

theorem first_value (network : Network) : network.first.value = network.block.base :=
  Block.ipAt_value _ (by rw [Block.last_eq]; omega)

theorem last_value (network : Network) : network.last.value = network.block.last :=
  Block.ipAt_value _ (Nat.le_refl _)

theorem ipAt_version (network : Network) (offset : Nat) :
    (network.ipAt offset).version = network.block.version :=
  rfl

theorem ipAt_value {network : Network} {offset : Nat} (managed : offset < network.size) :
    (network.ipAt offset).value = network.block.base + offset :=
  Block.ipAt_value _ (base_add_le_last managed)

theorem ipAt_injective {network : Network} {a b : Nat} (managedA : a < network.size)
    (managedB : b < network.size) (same : network.ipAt a = network.ipAt b) : a = b := by
  have values := congrArg Ip.value same
  rw [ipAt_value managedA, ipAt_value managedB] at values
  omega

theorem ipAt_eq_first_iff {network : Network} {offset : Nat} (managed : offset < network.size) :
    network.ipAt offset = network.first ↔ offset = 0 := by
  refine ⟨ipAt_injective managed network.size_pos, ?_⟩
  rintro rfl
  rfl

theorem ipAt_eq_last_iff {network : Network} {offset : Nat} (managed : offset < network.size) :
    network.ipAt offset = network.last ↔ offset = network.block.hostMask := by
  rw [Ip.ext_iff, ipAt_value managed, last_value, Block.last_eq, Nat.add_left_cancel_iff]
  exact and_iff_right rfl

def Manages (network : Network) (ip : Ip) : Prop :=
  ip.version = network.block.version ∧
    network.block.base ≤ ip.value ∧ ip.value < network.block.base + network.size

theorem manages_ipAt {network : Network} {offset : Nat} (managed : offset < network.size) :
    network.Manages (network.ipAt offset) := by
  refine ⟨rfl, ?_, ?_⟩ <;> rw [ipAt_value managed] <;> omega

theorem Manages.contains {network : Network} {ip : Ip} (manages : network.Manages ip) :
    network.block.contains ip = true := by
  obtain ⟨version, above, below⟩ := manages
  have inside : network.block.base + (ip.value - network.block.base) ≤ network.block.last :=
    base_add_le_last (by omega)
  exact (Block.contains_iff _ _).mpr ⟨version, above, by omega⟩

theorem Manages.ipAt {network : Network} {ip : Ip} (manages : network.Manages ip) :
    network.ipAt (ip.value - network.block.base) = ip := by
  obtain ⟨version, above, below⟩ := manages
  rw [Network.ipAt, Nat.add_sub_of_le above]
  exact Block.ipAt_of_version _ version

theorem offset?_eq_some_iff {network : Network} {address : Address} {offset : Nat} :
    network.offset? address = some offset ↔
      ∃ ip, address.host? = some ip ∧ network.Manages ip ∧
        offset = ip.value - network.block.base := by
  constructor
  · intro found
    simp only [offset?, Option.bind_eq_bind, Option.bind_eq_some_iff, Option.filter_eq_some_iff]
      at found
    obtain ⟨ip, ⟨host, contained⟩, checked⟩ := found
    have inside := (Block.contains_iff _ _).mp contained
    split at checked
    · cases Option.some.inj checked
      exact ⟨ip, host, ⟨inside.1, inside.2.1, by omega⟩, rfl⟩
    · cases checked
  · intro known
    obtain ⟨ip, host, manages, rfl⟩ := known
    have near : ip.value - network.block.base < network.size := by
      have below := manages.2.2
      have above := manages.2.1
      omega
    simp [offset?, host, Option.filter, manages.contains, near]

theorem offset?_lt {network : Network} {address : Address} {offset : Nat}
    (found : network.offset? address = some offset) : offset < network.size := by
  obtain ⟨ip, -, ⟨-, above, below⟩, rfl⟩ := offset?_eq_some_iff.mp found
  omega

theorem offset?_eq_none_iff {network : Network} {address : Address} :
    network.offset? address = none ↔ ∀ ip, address.host? = some ip → ¬network.Manages ip := by
  constructor
  · intro absent ip host manages
    have found := offset?_eq_some_iff.mpr ⟨ip, host, manages, rfl⟩
    rw [absent] at found
    cases found
  · intro outside
    cases found : network.offset? address with
    | none => rfl
    | some offset =>
      obtain ⟨ip, host, manages, -⟩ := offset?_eq_some_iff.mp found
      exact absurd manages (outside ip host)

theorem offset?_ipAt {network : Network} {offset : Nat} (managed : offset < network.size)
    (port : UInt16) : network.offset? (.ip (network.ipAt offset) port) = some offset := by
  refine offset?_eq_some_iff.mpr ⟨_, rfl, manages_ipAt managed, ?_⟩
  rw [ipAt_value managed]
  omega

theorem mappedOffset_lt (network : Network) (identifier : Bytes) :
    network.mappedOffset identifier < network.size :=
  Nat.mod_lt _ network.size_pos

-- Reservations as a finite set of distances, and the counting that tells an exhausted network
-- from one with addresses left.

def taken (network : Network) : Finset Nat := network.reserved.toList.toFinset

@[simp] theorem mem_taken {network : Network} {offset : Nat} :
    offset ∈ network.taken ↔ offset ∈ network.reserved := by
  simp [taken, Std.ExtTreeSet.mem_toList]

theorem card_taken (network : Network) : network.taken.card = network.reserved.size := by
  have distinct : network.reserved.toList.Nodup := by
    refine network.reserved.distinct_toList.imp ?_
    intro a b differ same
    subst b
    simp at differ
  rw [taken, List.toFinset_card_of_nodup distinct, Std.ExtTreeSet.length_toList]

-- Nothing is reserved that cannot be managed. Every operation keeps this.
def Valid (network : Network) : Prop := ∀ offset ∈ network.reserved, offset < network.size

def spare (network : Network) : Finset Nat :=
  (Finset.range network.size).filter fun offset =>
    offset ∉ network.reserved ∧
      (2 < network.size → offset ≠ 0 ∧ network.block.base + offset ≠ network.block.last)

theorem mem_spare {network : Network} {offset : Nat} :
    offset ∈ network.spare ↔
      offset < network.size ∧ offset ∉ network.reserved ∧
        (2 < network.size → offset ≠ 0 ∧ network.block.base + offset ≠ network.block.last) := by
  simp [spare]

theorem isEdge_iff {network : Network} {offset : Nat} :
    network.isEdge offset = true ↔
      2 < network.size ∧ (offset = 0 ∨ offset = network.block.hostMask) := by
  simp [isEdge]

theorem mem_edges {network : Network} {offset : Nat} :
    offset ∈ network.edges ↔ offset < network.size ∧ network.isEdge offset = true := by
  have positive := network.size_pos
  rw [isEdge_iff, edges, lastOffset?]
  split
  · simp
    omega
  · split
    · simp
      omega
    · simp
      omega

theorem edges_nodup (network : Network) : network.edges.Nodup := by
  have wide := network.size_le_hostMask
  rw [edges, lastOffset?]
  split
  · exact List.nodup_nil
  · split
    · simp
      omega
    · simp

def pool (network : Network) : Finset Nat :=
  Finset.range network.size \ network.edges.toFinset

theorem mem_pool {network : Network} {offset : Nat} :
    offset ∈ network.pool ↔ offset < network.size ∧ network.isEdge offset = false := by
  simp only [pool, Finset.mem_sdiff, Finset.mem_range, List.mem_toFinset, mem_edges, not_and,
    Bool.not_eq_true]
  exact and_congr_right fun managed => ⟨fun outside => outside managed, fun free _ => free⟩

theorem card_pool (network : Network) : network.pool.card = network.poolSize := by
  have inside : network.edges.toFinset ⊆ Finset.range network.size := by
    intro offset member
    exact Finset.mem_range.mpr (mem_edges.mp (List.mem_toFinset.mp member)).1
  rw [pool, Finset.card_sdiff_of_subset inside, Finset.card_range,
    List.toFinset_card_of_nodup network.edges_nodup, poolSize]

theorem card_taken_pool {network : Network} (valid : network.Valid) :
    (network.taken ∩ network.pool).card = network.poolUsed := by
  have outside : network.taken \ network.pool =
      (network.edges.filter network.reserved.contains).toFinset := by
    ext offset
    simp only [Finset.mem_sdiff, mem_taken, mem_pool, List.mem_toFinset, List.mem_filter, mem_edges,
      Std.ExtTreeSet.contains_iff_mem, Bool.not_eq_false, not_and]
    constructor
    · intro known
      obtain ⟨held, edge⟩ := known
      exact ⟨⟨valid offset held, edge (valid offset held)⟩, held⟩
    · intro known
      obtain ⟨⟨-, edge⟩, held⟩ := known
      exact ⟨held, fun _ => edge⟩
  have counted := Finset.card_sdiff_add_card_inter network.taken network.pool
  rw [outside, List.toFinset_card_of_nodup (network.edges_nodup.filter _), card_taken,
    ← List.countP_eq_length_filter] at counted
  rw [poolUsed]
  omega

theorem mem_spare_iff {network : Network} {offset : Nat} :
    offset ∈ network.spare ↔ offset ∈ network.pool ∧ offset ∉ network.taken := by
  have place : network.block.base + offset = network.block.last ↔
      offset = network.block.hostMask := by
    rw [Block.last_eq]
    omega
  rw [mem_spare, mem_pool, mem_taken, ← Bool.not_eq_true, isEdge_iff, ne_eq, ne_eq, place]
  tauto

theorem spare_iff_isFree {network : Network} {offset : Nat} :
    offset ∈ network.spare ↔ offset < network.size ∧ network.isFree offset = true := by
  rw [mem_spare_iff, mem_pool, mem_taken, isFree, Bool.and_eq_true, Bool.not_eq_true',
    Bool.not_eq_true', ← Bool.not_eq_true (network.reserved.contains offset),
    Std.ExtTreeSet.contains_iff_mem, and_assoc]

theorem card_spare {network : Network} (valid : network.Valid) :
    network.spare.card + network.poolUsed = network.poolSize := by
  have left : network.spare = network.pool \ network.taken := by
    ext offset
    rw [mem_spare_iff, Finset.mem_sdiff]
  rw [left, ← card_taken_pool valid, ← card_pool, Finset.inter_comm]
  exact Finset.card_sdiff_add_card_inter _ _

theorem isExhausted_iff {network : Network} (valid : network.Valid) :
    network.isExhausted = true ↔ network.spare = ∅ := by
  have counted := card_spare valid
  rw [isExhausted, decide_eq_true_eq, ← Finset.card_eq_zero]
  omega

end AddressPool.Network
