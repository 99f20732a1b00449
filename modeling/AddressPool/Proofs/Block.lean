import AddressPool.Block
import Mathlib.Algebra.Group.Nat.Defs

namespace AddressPool.Block

-- Masks are written bit by bit. Here they become arithmetic: the host part of an address is a
-- remainder, and a network is the interval from its first address to its last one.

theorem hostBits_le (block : Block) : block.hostBits ≤ block.version.width :=
  Nat.sub_le _ _

theorem count_eq (version : Version) : version.count = 2 ^ version.width := by
  rw [Version.count, Nat.one_shiftLeft]

theorem width_le (version : Version) : version.width ≤ 128 := by
  cases version <;> decide

theorem hostBits_le_width (block : Block) : block.hostBits ≤ 128 :=
  Nat.le_trans block.hostBits_le (width_le _)

theorem hostMask_eq (block : Block) : block.hostMask = 2 ^ block.hostBits - 1 := by
  have split : 2 ^ 128 = 2 ^ (128 - block.hostBits) * 2 ^ block.hostBits := by
    rw [← Nat.pow_add, Nat.sub_add_cancel block.hostBits_le_width]
  have positive : 0 < 2 ^ (128 - block.hostBits) * 2 ^ block.hostBits := by
    rw [← split]
    exact Nat.two_pow_pos _
  rw [hostMask, Nat.one_shiftLeft, Nat.shiftRight_eq_div_pow, split, Nat.mul_sub_div _ _ _ positive,
    Nat.zero_div]

theorem hostMask_lt (block : Block) : block.hostMask < 2 ^ block.hostBits := by
  have positive : 0 < 2 ^ block.hostBits := Nat.two_pow_pos _
  rw [hostMask_eq]
  omega

theorem cleared_eq (block : Block) (value : Nat) :
    block.cleared value = 2 ^ block.hostBits * (value / 2 ^ block.hostBits) := by
  have parts := Nat.div_add_mod value (2 ^ block.hostBits)
  rw [cleared, hostMask_eq, Nat.and_two_pow_sub_one_eq_mod]
  omega

theorem base_and_hostMask (block : Block) : block.base &&& block.hostMask = 0 := by
  rw [hostMask_eq, Nat.and_two_pow_sub_one_eq_mod, base, cleared_eq, Nat.mul_mod_right]

theorem last_eq (block : Block) : block.last = block.base + block.hostMask := by
  rw [last, base, cleared_eq, Nat.two_pow_add_eq_or_of_lt block.hostMask_lt]

theorem cleared_eq_base_iff (block : Block) (value : Nat) :
    block.cleared value = block.base ↔ block.base ≤ value ∧ value ≤ block.last := by
  have positive : 0 < 2 ^ block.hostBits := Nat.two_pow_pos _
  have parts := Nat.div_add_mod value (2 ^ block.hostBits)
  have rest := Nat.mod_lt value positive
  rw [last_eq, hostMask_eq, base, cleared_eq, cleared_eq]
  constructor
  · intro same
    omega
  · intro known
    obtain ⟨above, below⟩ := known
    have quotient : value / 2 ^ block.hostBits = block.host.value / 2 ^ block.hostBits := by
      apply Nat.div_eq_of_lt_le
      · rw [Nat.mul_comm]
        exact above
      · rw [Nat.succ_mul, Nat.mul_comm]
        omega
    rw [quotient]

theorem contains_iff (block : Block) (ip : Ip) :
    block.contains ip = true ↔
      ip.version = block.version ∧ block.base ≤ ip.value ∧ ip.value ≤ block.last := by
  simp only [contains, Bool.and_eq_true, decide_eq_true_eq, beq_iff_eq, cleared_eq_base_iff]

theorem contains_host (block : Block) : block.contains block.host = true := by
  simp [contains, base, version]

theorem last_lt_count (block : Block) : block.last < block.version.count := by
  have split : 2 ^ block.version.width = 2 ^ block.hostBits * 2 ^ block.maskSize := by
    rw [← Nat.pow_add, hostBits]
    exact congrArg _ (Nat.sub_add_cancel block.maskSize_le).symm
  have inside : block.host.value < 2 ^ block.hostBits * 2 ^ block.maskSize := by
    rw [← split, ← count_eq]
    exact block.host.value_lt
  have quotient : block.host.value / 2 ^ block.hostBits < 2 ^ block.maskSize :=
    Nat.div_lt_of_lt_mul inside
  have room : 2 ^ block.hostBits * (block.host.value / 2 ^ block.hostBits + 1) ≤
      2 ^ block.hostBits * 2 ^ block.maskSize :=
    Nat.mul_le_mul_left _ quotient
  have masked := block.hostMask_lt
  rw [last_eq, base, cleared_eq, count_eq, split]
  rw [Nat.mul_succ] at room
  omega

theorem ipAt_version (block : Block) (value : Nat) : (block.ipAt value).version = block.version :=
  rfl

theorem ipAt_value (block : Block) {value : Nat} (inside : value ≤ block.last) :
    (block.ipAt value).value = value :=
  Nat.mod_eq_of_lt (Nat.lt_of_le_of_lt inside block.last_lt_count)

theorem ipAt_of_version (block : Block) {ip : Ip} (same : ip.version = block.version) :
    block.ipAt ip.value = ip := by
  rw [ipAt, ← same, Ip.wrap_value]

theorem base_le_last (block : Block) : block.base ≤ block.last := by
  rw [last_eq]
  exact Nat.le_add_right _ _

theorem last_succ (block : Block) : block.last + 1 = block.base + 2 ^ block.hostBits := by
  have positive : 0 < 2 ^ block.hostBits := Nat.two_pow_pos _
  rw [last_eq, hostMask_eq]
  omega

theorem contains_ipAt (block : Block) {value : Nat} (above : block.base ≤ value)
    (below : value ≤ block.last) : block.contains (block.ipAt value) = true := by
  rw [contains_iff, ipAt_value block below]
  exact ⟨rfl, above, below⟩

-- Blocks are the same if they have the same addresses, whichever host they are written with.
structure Same (here there : Block) : Prop where
  version_eq : here.version = there.version
  base_eq : here.base = there.base
  maskSize_eq : here.maskSize = there.maskSize

theorem compare_eq_iff (here there : Block) : Block.compare here there = .eq ↔ here.Same there := by
  simp only [Block.compare, Ordering.then_eq_eq, Nat.compare_eq_eq]
  constructor
  · intro known
    obtain ⟨rank, base, mask⟩ := known
    refine ⟨?_, base, mask⟩
    cases one : here.version <;> cases other : there.version <;> simp [one, other] at rank ⊢
  · intro same
    rw [same.version_eq]
    exact ⟨rfl, same.base_eq, same.maskSize_eq⟩

theorem Same.hostBits_eq {here there : Block} (same : here.Same there) :
    here.hostBits = there.hostBits := by
  rw [hostBits, hostBits, same.version_eq, same.maskSize_eq]

theorem Same.contains_eq {here there : Block} (same : here.Same there) (ip : Ip) :
    here.contains ip = there.contains ip := by
  rw [Bool.eq_iff_iff, contains_iff, contains_iff, last_eq, last_eq, hostMask_eq, hostMask_eq,
    same.hostBits_eq, same.version_eq, same.base_eq]

-- The first address of a network is found in two ways: the host bits are taken off a number of any
-- size, or the bits of the mask are kept in a word as wide as the address.

theorem testBit_cleared (block : Block) (value i : Nat) :
    (block.cleared value).testBit i = (decide (block.hostBits ≤ i) && value.testBit i) := by
  rw [cleared_eq, Nat.testBit_two_pow_mul]
  by_cases kept : block.hostBits ≤ i
  · simp [kept, Nat.testBit_div_two_pow]
  · simp [kept]

def netmask (block : Block) : Nat :=
  if block.hostBits < block.version.width then
    (block.version.count - 1) <<< block.hostBits % block.version.count
  else 0

theorem testBit_netmask (block : Block) (i : Nat) :
    block.netmask.testBit i = (decide (block.hostBits ≤ i) && decide (i < block.version.width)) := by
  unfold netmask
  split
  · rw [count_eq, Nat.testBit_mod_two_pow, Nat.testBit_shiftLeft, Nat.testBit_two_pow_sub_one]
    by_cases inside : i < block.version.width
    · have below : i - block.hostBits < block.version.width := by omega
      simp [inside, below]
    · simp [inside]
  · rename_i whole
    have beyond : block.hostBits ≤ i → ¬i < block.version.width := by omega
    simpa using beyond

def masked (block : Block) : Block :=
  ⟨block.ipAt (block.host.value &&& block.netmask), block.maskSize, block.maskSize_le⟩

theorem host_and_netmask (block : Block) : block.host.value &&& block.netmask = block.base := by
  apply Nat.eq_of_testBit_eq
  intro i
  rw [Nat.testBit_and, testBit_netmask, base, testBit_cleared]
  by_cases inside : i < block.version.width
  · simp [inside, Bool.and_comm]
  · have none : block.host.value.testBit i = false := by
      apply Nat.testBit_lt_two_pow
      have narrow := block.host.value_lt
      rw [count_eq] at narrow
      exact Nat.lt_of_lt_of_le narrow (Nat.pow_le_pow_right (by decide) (Nat.le_of_not_lt inside))
    simp [none]

theorem masked_eq (block : Block) : block.masked = block.truncated := by
  unfold masked truncated
  simp only [host_and_netmask]

theorem truncated_base (block : Block) : block.truncated.base = block.base := by
  have first : (block.ipAt block.base).value = block.base := block.ipAt_value block.base_le_last
  have kept : block.cleared block.base = block.base :=
    (block.cleared_eq_base_iff block.base).mpr ⟨Nat.le_refl _, block.base_le_last⟩
  calc
    block.truncated.base = block.cleared (block.ipAt block.base).value := rfl
    _ = block.base := by rw [first, kept]

theorem truncated_same (block : Block) : block.truncated.Same block :=
  ⟨rfl, block.truncated_base, rfl⟩

theorem truncated_eq_iff (here there : Block) :
    here.truncated = there.truncated ↔ here.Same there := by
  constructor
  · intro equal
    have versions := congrArg version equal
    have bases := congrArg base equal
    have masks := congrArg maskSize equal
    rw [truncated_base, truncated_base] at bases
    exact ⟨versions, bases, masks⟩
  · intro same
    apply Block.ext
    · simp only [truncated, ipAt, same.version_eq, same.base_eq]
    · exact same.maskSize_eq

end AddressPool.Block
