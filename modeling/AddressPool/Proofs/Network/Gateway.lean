import AddressPool.Proofs.Network.Netspec
import AddressPool.Proofs.Network.Span
import AddressPool.Proofs.Network.Spreading

namespace AddressPool.Network

-- Where the gateway comes from. The host that was written is the first choice, and the edges are
-- left alone as long as there are other addresses.
inductive GatewayFrom (network : Network) : Ip → Prop where
  | written (inner : network.block.host ≠ network.first ∧ network.block.host ≠ network.last) :
      GatewayFrom network network.block.host
  | second (edge : network.block.host = network.first ∨ network.block.host = network.last)
      (large : 2 < network.size) : GatewayFrom network (network.ipAt 1)
  | first (edge : network.block.host = network.first ∨ network.block.host = network.last)
      (small : network.size ≤ 2) : GatewayFrom network network.first

theorem host_eq_first_iff (network : Network) :
    network.block.host = network.first ↔ network.block.host.value = network.block.base := by
  rw [Ip.ext_iff, first_value]
  exact and_iff_right rfl

theorem host_eq_last_iff (network : Network) :
    network.block.host = network.last ↔ network.block.host.value = network.block.last := by
  rw [Ip.ext_iff, last_value]
  exact and_iff_right rfl

theorem gateway_from (network : Network) : network.GatewayFrom network.gateway := by
  have first := network.host_eq_first_iff
  have last := network.host_eq_last_iff
  unfold gateway
  dsimp only
  split
  · rename_i inner
    exact .written ⟨mt first.mp inner.1, mt last.mp inner.2⟩
  · rename_i edge
    have edge : network.block.host = network.first ∨ network.block.host = network.last := by
      rw [first, last]
      omega
    split
    · rename_i large
      exact .second edge large
    · rename_i small
      exact .first edge (Nat.le_of_not_lt small)

theorem two_lt_size_iff (network : Network) :
    2 < network.size ↔ 2 < 2 ^ network.block.hostBits := by
  rw [size_eq]
  omega

section
variable {network : Network} {ip : Ip} (chosen : network.GatewayFrom ip)
include chosen

theorem GatewayFrom.contains : network.block.contains ip = true := by
  cases chosen with
  | written inner => exact network.block.contains_host
  | second edge large => exact (manages_ipAt (by omega)).contains
  | first edge small => exact network.block.contains_ipAt (Nat.le_refl _) network.block.base_le_last

theorem GatewayFrom.inner (large : 2 < network.size) :
    ip ≠ network.first ∧ ip ≠ network.last := by
  cases chosen with
  | written inner => exact inner
  | second edge _ =>
    have managed : 1 < network.size := by omega
    have room := network.size_le_hostMask
    rw [ne_eq, ne_eq, ipAt_eq_first_iff managed, ipAt_eq_last_iff managed]
    omega
  | first edge small => omega

theorem GatewayFrom.small (small : network.size ≤ 2) : ip = network.first := by
  cases chosen with
  | written inner =>
    have inside := ((Block.contains_iff _ _).mp network.block.contains_host).2
    have room := network.block.last_succ
    have few := (network.two_lt_size_iff.not.mp (Nat.not_lt.mpr small))
    have first := mt network.host_eq_first_iff.mpr inner.1
    have last := mt network.host_eq_last_iff.mpr inner.2
    omega
  | second edge large => omega
  | first edge _ => rfl

theorem GatewayFrom.written_eq (first : network.block.host ≠ network.first)
    (last : network.block.host ≠ network.last) : ip = network.block.host := by
  cases chosen with
  | written inner => rfl
  | second edge _ | first edge _ => exact absurd edge (not_or.mpr ⟨first, last⟩)

theorem GatewayFrom.second_eq (large : 2 < network.size)
    (edge : network.block.host = network.first ∨ network.block.host = network.last) :
    ip = network.first.successor := by
  cases chosen with
  | written inner => exact absurd edge (not_or.mpr inner)
  | second _ _ => exact (Ip.successor_wrap _ _).symm
  | first _ small => omega

theorem GatewayFrom.near (narrow : network.block.hostBits ≤ 64) :
    ip.value - network.first.value < network.size := by
  by_cases large : 2 < network.size
  · obtain ⟨version, above, below⟩ := (Block.contains_iff _ _).mp chosen.contains
    have before : ip.value ≠ network.block.last := by
      intro same
      apply (chosen.inner large).2
      exact Ip.ext version (same.trans network.last_value.symm)
    have counted : 2 ^ network.block.hostBits ≤ 2 ^ 64 :=
      Nat.pow_le_pow_right (by decide) narrow
    have room := network.block.last_succ
    rw [first_value, size_eq]
    omega
  · rw [chosen.small (Nat.le_of_not_lt large), Nat.sub_self]
    exact network.size_pos

end

theorem reserve_contained_iff {network : Network} {address : Address} {ip : Ip}
    (host : address.host? = some ip) (inside : network.block.contains ip = true)
    (free : network.isReserved address = false) :
    (network.reserve address).value = true ↔
      ip.value - network.first.value < network.size := by
  obtain ⟨version, above, -⟩ := (Block.contains_iff _ _).mp inside
  rw [first_value]
  constructor
  · intro answer
    rcases network.reserve_cases address with ⟨offset, found, -, -⟩ | ⟨refused, -⟩
    · obtain ⟨other, known, -, rfl⟩ := offset?_eq_some_iff.mp found
      cases Option.some.inj (host.symm.trans known)
      exact offset?_lt found
    · rw [refused] at answer
      cases answer
  · intro near
    have manages : network.Manages ip := ⟨version, above, by omega⟩
    have found := offset?_eq_some_iff.mpr ⟨ip, host, manages, rfl⟩
    have untaken : ip.value - network.block.base ∉ network.reserved := by
      intro held
      rw [isReserved_iff.mpr ⟨_, found, held⟩] at free
      cases free
    rw [reserve_found found untaken]

theorem gateway_of_block {one other : Network} (same : one.block = other.block) :
    one.gateway = other.gateway := by
  cases one
  cases other
  cases same
  rfl

-- The gateway is an address of the network that a host can have, and it stays what it is until the
-- network starts over with another netspec.
structure GatewayUsable (network : Network) : Prop where
  inside : network.contains (.ofIp network.gateway) = true ∧
    (Address.ofIp network.gateway).port = 0 ∧ network.first.value ≤ network.gateway.value
  inner : 2 < 2 ^ network.block.hostBits →
    network.gateway ≠ network.first ∧ network.gateway ≠ network.last
  written : network.block.host ≠ network.first → network.block.host ≠ network.last →
    network.gateway = network.block.host
  second : 2 < 2 ^ network.block.hostBits →
    network.block.host = network.first ∨ network.block.host = network.last →
      network.gateway = network.first.successor
  small : 2 ^ network.block.hostBits ≤ 2 → network.gateway = network.first
  host_read : ∀ netspec, network.Written netspec → AddressText.read netspec true 0 =
    .ok (.ip network.block.host (some network.block.maskSize) 0)
  copy_eq : network.fresh.gateway = network.gateway
  reset_eq : ∀ netspec, network.Written netspec → (network.reset netspec).value = .ok () ∧
    (network.reset netspec).network.gateway = network.gateway
  serve_eq : ∀ requests,
    (∀ netspec, .reset netspec ∈ requests → Block.isNetspec netspec = false) →
      (network.serve requests).network.gateway = network.gateway
  reserve_iff : network.isReserved (.ofIp network.gateway) = false →
    ((network.reserve (.ofIp network.gateway)).value = true ↔
      network.gateway.value - network.first.value < network.size)
  near : network.block.hostBits ≤ 64 →
    network.gateway.value - network.first.value < network.size

theorem gateway_usable (network : Network) : network.GatewayUsable := by
  have chosen := network.gateway_from
  have large := network.two_lt_size_iff
  constructor
  case inside =>
    have above := ((Block.contains_iff _ _).mp chosen.contains).2.1
    refine ⟨chosen.contains, rfl, ?_⟩
    rwa [first_value]
  case inner => exact fun many => chosen.inner (large.mpr many)
  case written => exact chosen.written_eq
  case second => exact fun many => chosen.second_eq (large.mpr many)
  case small => exact fun few => chosen.small (Nat.not_lt.mp (mt large.mp (Nat.not_lt.mpr few)))
  case host_read => exact fun netspec written =>
    (Block.ofNetspec_judged netspec).ok_iff.mp written.reads
  case copy_eq => rfl
  case reset_eq =>
    intro netspec written
    obtain ⟨done, begun⟩ := reset_ok written.reads network
    refine ⟨done, gateway_of_block ?_⟩
    rw [begun]
    rfl
  case serve_eq => exact fun requests keeps => gateway_of_block (serve_block keeps)
  case reserve_iff => exact reserve_contained_iff rfl chosen.contains
  case near => exact chosen.near

-- The host that a network of all IPv6 addresses was written with can be out of reach.
example : let network := ofBlock ⟨Ip.wrap .v6 (2 ^ 64), 0, by decide⟩ (.ofSeed 7)
    network.gateway.value = 2 ^ 64 ∧ (network.reserve (.ofIp network.gateway)).value = false := by
  decide

end AddressPool.Network
