import AddressPool.Proofs.Network.Pool

namespace AddressPool

theorem Ip.successor_wrap (version : Version) (n : Nat) :
    (Ip.wrap version n).successor = Ip.wrap version (n + 1) := by
  apply Ip.ext
  · rfl
  · exact Nat.mod_add_mod n version.count 1

namespace Address

def advance : (steps : Nat) → Address → Except UnsupportedFamily Address
  | 0, address => .ok address
  | steps + 1, address => (advance steps address).bind increment

theorem advance_ip (steps : Nat) (host : Ip) (port : UInt16) :
    advance steps (.ip host port) = .ok (.ip (Ip.wrap host.version (host.value + steps)) port) := by
  induction steps with
  | zero =>
    rw [Nat.add_zero, Ip.wrap_value]
    rfl
  | succ steps ih =>
    calc
      advance (steps + 1) (.ip host port)
        = (.ok (.ip (Ip.wrap host.version (host.value + steps)) port) :
            Except UnsupportedFamily Address).bind increment := by rw [advance, ih]
      _ = .ok (.ip (Ip.wrap host.version (host.value + steps)).successor port) := rfl
      _ = .ok (.ip (Ip.wrap host.version (host.value + (steps + 1))) port) := by
        rw [Ip.successor_wrap, Nat.add_assoc]

end Address

namespace Block

theorem maskSize_eq_zero_iff (block : Block) :
    block.maskSize = 0 ↔ 2 ^ block.hostBits = block.version.count := by
  have fits : block.maskSize ≤ block.version.width := block.maskSize_le
  rw [count_eq, Nat.pow_right_inj (by decide), hostBits]
  omega

end Block

namespace Network

theorem advance_first (network : Network) (steps : Nat) :
    Address.advance steps (.ofIp network.first) = .ok (.ofIp (network.ipAt steps)) := by
  rw [Address.ofIp, Address.advance_ip, first_value]
  rfl

theorem near_value {network : Network} {steps : Nat} (near : steps < 2 ^ network.block.hostBits) :
    (network.ipAt steps).value = network.block.base + steps := by
  have room := network.block.last_succ
  exact Block.ipAt_value _ (by omega)

theorem contains_near {network : Network} {steps : Nat}
    (near : steps < 2 ^ network.block.hostBits) :
    network.block.contains (network.ipAt steps) = true := by
  have room := network.block.last_succ
  exact network.block.contains_ipAt (Nat.le_add_right _ _) (by omega)

theorem near_unique {network : Network} {host : Ip} (inside : network.block.contains host = true) :
    ∃! steps, steps < 2 ^ network.block.hostBits ∧ network.ipAt steps = host := by
  obtain ⟨version, above, below⟩ := (Block.contains_iff _ _).mp inside
  have room := network.block.last_succ
  refine ⟨host.value - network.block.base, ⟨by omega, ?_⟩, ?_⟩
  · rw [ipAt, Nat.add_sub_of_le above]
    exact Block.ipAt_of_version _ version
  · rintro steps ⟨near, rfl⟩
    rw [near_value near]
    omega

theorem ipAt_last (network : Network) :
    network.ipAt (2 ^ network.block.hostBits - 1) = network.last := by
  have room := network.block.last_succ
  have positive : 0 < 2 ^ network.block.hostBits := Nat.two_pow_pos _
  have place : network.block.base + (2 ^ network.block.hostBits - 1) = network.block.last := by
    omega
  rw [ipAt, place]
  rfl

-- After the last address comes one with a greater number, or else the lowest address of all. The
-- network has that one only if it starts there, and then nothing is outside.
theorem beyond_outside {network : Network} (masked : network.block.maskSize ≠ 0) :
    network.block.contains (network.ipAt (2 ^ network.block.hostBits)) = false := by
  have room := network.block.last_succ
  have narrow := network.block.last_lt_count
  have value : (network.ipAt (2 ^ network.block.hostBits)).value =
      (network.block.last + 1) % network.block.version.count := by
    rw [room]
    rfl
  rw [Bool.eq_false_iff, Ne, Block.contains_iff, value]
  rintro ⟨-, above, below⟩
  by_cases top : network.block.last + 1 < network.block.version.count
  · rw [Nat.mod_eq_of_lt top] at below
    omega
  · have whole : network.block.last + 1 = network.block.version.count := by omega
    rw [whole, Nat.mod_self] at above
    apply masked
    rw [Block.maskSize_eq_zero_iff]
    omega

theorem beyond_around {network : Network} (unmasked : network.block.maskSize = 0) :
    network.ipAt (2 ^ network.block.hostBits) = network.first := by
  have whole := network.block.maskSize_eq_zero_iff.mp unmasked
  apply Ip.ext
  · rfl
  · change (network.block.base + 2 ^ network.block.hostBits) % network.block.version.count =
      network.block.base % network.block.version.count
    rw [whole, Nat.add_mod_right]

theorem contains_iff_between (network : Network) (address : Address) :
    network.contains address = true ↔ address.family = .ip network.block.version ∧
      ∃ host, address.host? = some host ∧
        network.first.value ≤ host.value ∧ host.value ≤ network.last.value := by
  rw [first_value, last_value]
  cases address with
  | unspecified => simp [contains, Address.host?]
  | path name => simp [contains, Address.host?]
  | ip host port => simp [contains, Address.host?, Address.family, Block.contains_iff]

-- The addresses under the mask, the interval from the first to the last address and what is
-- visited by incrementing the first one are the same addresses.
structure Spans (network : Network) : Prop where
  contains_iff : ∀ address, network.contains address = true ↔
    address.family = .ip network.block.version ∧ ∃ host, address.host? = some host ∧
      network.first.value ≤ host.value ∧ host.value ≤ network.last.value
  ends : network.first.version = network.block.version ∧
    network.last.version = network.block.version
  count : network.last.value + 1 = network.first.value + 2 ^ network.block.hostBits
  size : network.size = min (2 ^ network.block.hostBits) (2 ^ 64 - 1)
  advance : ∀ steps host port, ∃ next,
    Address.advance steps (.ip host port) = .ok (.ip next port) ∧ next.version = host.version ∧
      next.value = (host.value + steps) % 2 ^ host.version.width
  inside : ∀ steps, steps < 2 ^ network.block.hostBits → ∃ address,
    Address.advance steps (.ofIp network.first) = .ok address ∧ network.contains address = true
  visited : ∀ host, network.contains (.ofIp host) = true → ∃! steps,
    steps < 2 ^ network.block.hostBits ∧
      Address.advance steps (.ofIp network.first) = .ok (.ofIp host)
  last : Address.advance (2 ^ network.block.hostBits - 1) (.ofIp network.first) =
    .ok (.ofIp network.last)
  beyond : network.block.maskSize ≠ 0 → ∃ next,
    Address.advance (2 ^ network.block.hostBits) (.ofIp network.first) = .ok next ∧
      network.contains next = false
  around : network.block.maskSize = 0 →
    Address.advance (2 ^ network.block.hostBits) (.ofIp network.first) = .ok (.ofIp network.first)

theorem spans_addresses (network : Network) : network.Spans where
  contains_iff := network.contains_iff_between
  ends := ⟨rfl, rfl⟩
  count := by
    rw [first_value, last_value]
    exact network.block.last_succ
  size := network.size_eq
  advance := by
    intro steps host port
    refine ⟨_, Address.advance_ip steps host port, rfl, ?_⟩
    rw [← Block.count_eq]
    rfl
  inside := by
    intro steps near
    exact ⟨_, network.advance_first steps, contains_near near⟩
  visited := by
    intro host inside
    have same : ∀ steps, Address.advance steps (.ofIp network.first) = .ok (.ofIp host) ↔
        network.ipAt steps = host := by
      intro steps
      rw [advance_first]
      simp [Address.ofIp]
    simp only [same]
    exact near_unique inside
  last := by
    rw [advance_first, ipAt_last]
  beyond := by
    intro masked
    exact ⟨_, network.advance_first _, beyond_outside masked⟩
  around := by
    intro unmasked
    rw [advance_first, beyond_around unmasked]

end Network
end AddressPool
