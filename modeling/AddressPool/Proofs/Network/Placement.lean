import AddressPool.Network.Session
import AddressPool.Proofs.Network.Probe

namespace AddressPool

def Block.Corresponds (here there : Block) (one other : Ip) : Prop :=
  here.contains one = true ∧ there.contains other = true ∧
    one.value - here.base = other.value - there.base

-- Ports play no part, and whatever lies outside is as good as anything else outside.
inductive Address.Corresponds (here there : Block) : Address → Address → Prop where
  | inside (places : Block.Corresponds here there one other) :
      Corresponds here there (.ip one written) (.ip other writtenThere)
  | outside (absent : one.host?.any here.contains = false)
      (absentThere : other.host?.any there.contains = false) : Corresponds here there one other

inductive Request.Corresponds (here there : Block) : Request → Request → Prop where
  | reserveAny : Corresponds here there .reserveAny .reserveAny
  | reserve (places : Address.Corresponds here there one other) :
      Corresponds here there (.reserve one) (.reserve other)
  | release (places : Address.Corresponds here there one other) :
      Corresponds here there (.release one) (.release other)
  | isReserved (places : Address.Corresponds here there one other) :
      Corresponds here there (.isReserved one) (.isReserved other)
  | contains (places : Address.Corresponds here there one other) :
      Corresponds here there (.contains one) (.contains other)
  | mapped : Corresponds here there (.mapped identifier) (.mapped identifier)
  | reserveMapped : Corresponds here there (.reserveMapped identifier) (.reserveMapped identifier)
  | isReservedId : Corresponds here there (.isReservedId identifier) (.isReservedId identifier)
  | reservedCount : Corresponds here there .reservedCount .reservedCount

inductive Reply.Corresponds (here there : Block) : Reply → Reply → Prop where
  | flag : Corresponds here there (.flag value) (.flag value)
  | count : Corresponds here there (.count value) (.count value)
  | address (places : Block.Corresponds here there one other) :
      Corresponds here there (.address one) (.address other)
  | noneLeft : Corresponds here there .noneLeft .noneLeft

namespace Network

structure InStep (here there : Block) (one other : Network) : Prop where
  hostBits_eq : here.hostBits = there.hostBits
  here_eq : one.block = here
  there_eq : other.block = there
  reserved_eq : one.reserved = other.reserved
  generator_eq : one.generator = other.generator

theorem offset?_outside {network : Network} {address : Address}
    (absent : address.host?.any network.block.contains = false) :
    network.offset? address = none := by
  apply offset?_eq_none_iff.mpr
  intro ip host manages
  simp [host, manages.contains] at absent

section
variable {here there : Block} {one other : Network} (inStep : InStep here there one other)
include inStep

theorem InStep.block_bits : one.block.hostBits = other.block.hostBits := by
  rw [inStep.here_eq, inStep.there_eq, inStep.hostBits_eq]

theorem InStep.size_eq : one.size = other.size := by
  rw [size, size, inStep.block_bits]

theorem InStep.hostMask_eq : one.block.hostMask = other.block.hostMask := by
  rw [Block.hostMask, Block.hostMask, inStep.block_bits]

theorem InStep.isFree_eq (offset : Nat) : one.isFree offset = other.isFree offset := by
  simp only [isFree, isEdge, inStep.size_eq, inStep.hostMask_eq, inStep.reserved_eq]

theorem InStep.edges_eq : one.edges = other.edges := by
  rw [edges, edges, lastOffset?, lastOffset?, inStep.size_eq, inStep.hostMask_eq]

theorem InStep.isExhausted_eq : one.isExhausted = other.isExhausted := by
  rw [isExhausted, isExhausted, poolSize, poolSize, poolUsed, poolUsed, inStep.edges_eq,
    inStep.size_eq, inStep.reserved_eq]

theorem InStep.probe_eq (steps offset : Nat) :
    one.probe steps offset = other.probe steps offset := by
  induction steps generalizing offset with
  | zero => rfl
  | succ steps ih => simp only [probe, following, inStep.isFree_eq, inStep.size_eq, ih]

theorem InStep.mappedOffset_eq (identifier : Bytes) :
    one.mappedOffset identifier = other.mappedOffset identifier := by
  rw [mappedOffset, mappedOffset, inStep.size_eq]

theorem InStep.hold (offset : Nat) : InStep here there (one.hold offset) (other.hold offset) where
  hostBits_eq := inStep.hostBits_eq
  here_eq := inStep.here_eq
  there_eq := inStep.there_eq
  reserved_eq := congrArg (·.insert offset) inStep.reserved_eq
  generator_eq := inStep.generator_eq

theorem InStep.free (offset : Nat) : InStep here there (one.free offset) (other.free offset) where
  hostBits_eq := inStep.hostBits_eq
  here_eq := inStep.here_eq
  there_eq := inStep.there_eq
  reserved_eq := congrArg (·.erase offset) inStep.reserved_eq
  generator_eq := inStep.generator_eq

theorem InStep.draw (generator : Generator) :
    InStep here there { one with generator } { other with generator } where
  hostBits_eq := inStep.hostBits_eq
  here_eq := inStep.here_eq
  there_eq := inStep.there_eq
  reserved_eq := inStep.reserved_eq
  generator_eq := rfl

theorem InStep.ipAt {offset : Nat} (managed : offset < one.size) :
    Block.Corresponds here there (one.ipAt offset) (other.ipAt offset) := by
  have managedThere : offset < other.size := by rwa [← inStep.size_eq]
  have distance : (one.ipAt offset).value - one.block.base =
      (other.ipAt offset).value - other.block.base := by
    rw [ipAt_value managed, ipAt_value managedThere]
    omega
  rw [← inStep.here_eq, ← inStep.there_eq]
  exact ⟨(manages_ipAt managed).contains, (manages_ipAt managedThere).contains, distance⟩

theorem InStep.mapped (identifier : Bytes) :
    Block.Corresponds here there (one.mapped identifier) (other.mapped identifier) := by
  have places := inStep.ipAt (one.mappedOffset_lt identifier)
  rwa [Network.mapped, Network.mapped, ← inStep.mappedOffset_eq]

theorem InStep.offset?_eq {address addressThere : Address}
    (places : Address.Corresponds here there address addressThere) :
    one.offset? address = other.offset? addressThere := by
  cases places with
  | inside places =>
    obtain ⟨inside, insideThere, distance⟩ := places
    simp [offset?, Address.host?, Option.filter, inStep.here_eq, inStep.there_eq, inside,
      insideThere, distance, inStep.size_eq]
  | outside absent absentThere =>
    rw [← inStep.here_eq] at absent
    rw [← inStep.there_eq] at absentThere
    rw [offset?_outside absent, offset?_outside absentThere]

theorem InStep.contains_eq {address addressThere : Address}
    (places : Address.Corresponds here there address addressThere) :
    one.contains address = other.contains addressThere := by
  rw [Network.contains, Network.contains, inStep.here_eq, inStep.there_eq]
  cases places with
  | inside places =>
    obtain ⟨inside, insideThere, -⟩ := places
    simp [Address.host?, inside, insideThere]
  | outside absent absentThere => rw [absent, absentThere]

theorem InStep.isReserved_eq {address addressThere : Address}
    (places : Address.Corresponds here there address addressThere) :
    one.isReserved address = other.isReserved addressThere := by
  rw [Network.isReserved, Network.isReserved, inStep.offset?_eq places, inStep.reserved_eq]

theorem InStep.isReservedId_eq (identifier : Bytes) :
    one.isReservedId identifier = other.isReservedId identifier :=
  inStep.isReserved_eq (.inside (inStep.mapped identifier))

theorem InStep.reserve {address addressThere : Address}
    (places : Address.Corresponds here there address addressThere) :
    (one.reserve address).value = (other.reserve addressThere).value ∧
      InStep here there (one.reserve address).network (other.reserve addressThere).network := by
  unfold Network.reserve
  rw [inStep.offset?_eq places, inStep.reserved_eq]
  cases other.offset? addressThere with
  | none => exact ⟨rfl, inStep⟩
  | some offset =>
    cases held : other.reserved.contains offset with
    | true => simpa [held] using inStep
    | false => simpa [held] using inStep.hold offset

theorem InStep.release {address addressThere : Address}
    (places : Address.Corresponds here there address addressThere) :
    (one.release address).value = (other.release addressThere).value ∧
      InStep here there (one.release address).network (other.release addressThere).network := by
  unfold Network.release
  rw [inStep.offset?_eq places, inStep.reserved_eq]
  cases other.offset? addressThere with
  | none => exact ⟨rfl, inStep⟩
  | some offset =>
    cases held : other.reserved.contains offset with
    | true => simpa [held] using inStep.free offset
    | false => simpa [held] using inStep

theorem InStep.reserveMapped (identifier : Bytes) :
    InStep here there (one.reserveMapped identifier).network
      (other.reserveMapped identifier).network :=
  (inStep.reserve (.inside (inStep.mapped identifier))).2

-- Both networks draw the same starting point and walk the same circle from there.
theorem InStep.reserveAny :
    ((one.reserveAny.value = none ∧ other.reserveAny.value = none) ∨
      ∃ ip ipThere, one.reserveAny.value = some ip ∧ other.reserveAny.value = some ipThere ∧
        Block.Corresponds here there ip ipThere) ∧
      InStep here there one.reserveAny.network other.reserveAny.network := by
  unfold Network.reserveAny
  rw [inStep.isExhausted_eq]
  split
  · exact ⟨.inl ⟨rfl, rfl⟩, inStep⟩
  · have steps : one.probeSteps = other.probeSteps := by
      rw [probeSteps, probeSteps, inStep.reserved_eq]
    have drawn := inStep.draw (other.generator.below other.size).2
    simp only [inStep.generator_eq, inStep.size_eq, inStep.probe_eq, steps]
    cases found : other.probe other.probeSteps (other.generator.below other.size).1 with
    | none => exact ⟨.inl ⟨rfl, rfl⟩, drawn⟩
    | some offset =>
      have managed : offset < one.size := by
        have start := Generator.below_lt other.size_pos other.generator
        obtain ⟨passed, -, place, -⟩ := (probe_eq_some_iff start).mp found
        rw [place, inStep.size_eq]
        exact Nat.mod_lt _ other.size_pos
      exact ⟨.inr ⟨_, _, rfl, rfl, inStep.ipAt managed⟩, drawn.hold offset⟩

theorem InStep.perform {request requestThere : Request}
    (asked : Request.Corresponds here there request requestThere) :
    Reply.Corresponds here there (one.perform request).value (other.perform requestThere).value ∧
      InStep here there (one.perform request).network (other.perform requestThere).network := by
  cases asked with
  | reserveAny =>
    obtain ⟨replies, after⟩ := inStep.reserveAny
    rcases replies with ⟨none, noneThere⟩ | ⟨ip, ipThere, some, someThere, places⟩
    · simpa [Network.perform, none, noneThere] using ⟨.noneLeft, after⟩
    · simpa [Network.perform, some, someThere] using ⟨.address places, after⟩
  | reserve places =>
    obtain ⟨same, after⟩ := inStep.reserve places
    simpa [Network.perform, same] using ⟨.flag, after⟩
  | release places =>
    obtain ⟨same, after⟩ := inStep.release places
    simpa [Network.perform, same] using ⟨.flag, after⟩
  | isReserved places =>
    simpa [Network.perform, inStep.isReserved_eq places] using ⟨.flag, inStep⟩
  | contains places =>
    simpa [Network.perform, inStep.contains_eq places] using ⟨.flag, inStep⟩
  | mapped => exact ⟨.address (inStep.mapped _), inStep⟩
  | reserveMapped => exact ⟨.address (inStep.mapped _), inStep.reserveMapped _⟩
  | isReservedId =>
    simpa [Network.perform, inStep.isReservedId_eq] using ⟨.flag, inStep⟩
  | reservedCount =>
    simpa [Network.perform, inStep.reserved_eq] using ⟨.count, inStep⟩

theorem InStep.serve {requests requestsThere : List Request}
    (asked : List.Forall₂ (Request.Corresponds here there) requests requestsThere) :
    List.Forall₂ (Reply.Corresponds here there) (one.serve requests).value
        (other.serve requestsThere).value ∧
      InStep here there (one.serve requests).network (other.serve requestsThere).network := by
  induction asked generalizing one other with
  | nil => exact ⟨.nil, inStep⟩
  | cons first rest ih =>
    obtain ⟨reply, middle⟩ := inStep.perform first
    obtain ⟨replies, after⟩ := ih middle
    exact ⟨.cons reply replies, after⟩

end

end Network

theorem Block.Same.address {here there : Block} (same : here.Same there) (address : Address) :
    Address.Corresponds here there address address := by
  cases address with
  | ip host written =>
    have insideThere := same.contains_eq host
    cases inside : here.contains host with
    | true =>
      rw [inside] at insideThere
      exact .inside ⟨inside, insideThere.symm, by rw [same.base_eq]⟩
    | false =>
      rw [inside] at insideThere
      exact .outside inside insideThere.symm
  | unspecified | path name => exact .outside rfl rfl

theorem Block.Same.request {here there : Block} (same : here.Same there) {request : Request}
    (keeps : ∀ netspec, request ≠ .reset netspec) :
    Request.Corresponds here there request request := by
  cases request with
  | reset netspec => exact absurd rfl (keeps netspec)
  | reserveAny => exact .reserveAny
  | reserve address => exact .reserve (same.address address)
  | release address => exact .release (same.address address)
  | isReserved address => exact .isReserved (same.address address)
  | contains address => exact .contains (same.address address)
  | mapped identifier => exact .mapped
  | reserveMapped identifier => exact .reserveMapped
  | isReservedId identifier => exact .isReservedId
  | reservedCount => exact .reservedCount

theorem Block.Same.reply {here there : Block} (same : here.Same there) {one other : Reply}
    (replies : Reply.Corresponds here there one other) : one = other := by
  cases replies with
  | address places =>
    obtain ⟨inside, insideThere, distance⟩ := places
    obtain ⟨version, above, -⟩ := (Block.contains_iff _ _).mp inside
    obtain ⟨versionThere, aboveThere, -⟩ := (Block.contains_iff _ _).mp insideThere
    rw [same.base_eq] at above distance
    congr 1
    ext
    · rw [version, versionThere, same.version_eq]
    · omega
  | flag | count | noneLeft => rfl

namespace Network

theorem InStep.perform_same {here there : Block} {one other : Network} (same : here.Same there)
    (inStep : InStep here there one other) (request : Request) :
    (one.perform request).value = (other.perform request).value ∧
      ∃ hereAfter thereAfter, hereAfter.Same thereAfter ∧
        InStep hereAfter thereAfter (one.perform request).network
          (other.perform request).network := by
  by_cases restarts : ∃ netspec, request = .reset netspec
  · obtain ⟨netspec, rfl⟩ := restarts
    cases read : Block.ofNetspec netspec with
    | error fault => simpa [Network.perform, reset, read] using ⟨here, there, same, inStep⟩
    | ok block =>
      simp only [Network.perform, reset, read, true_and]
      exact ⟨block, block, ⟨rfl, rfl, rfl⟩, rfl, rfl, rfl, rfl, inStep.generator_eq⟩
  · have asked := same.request fun netspec is => restarts ⟨netspec, is⟩
    obtain ⟨replies, after⟩ := inStep.perform asked
    exact ⟨same.reply replies, here, there, same, after⟩

theorem InStep.serve_same {here there : Block} {one other : Network} (same : here.Same there)
    (inStep : InStep here there one other) (requests : List Request) :
    (one.serve requests).value = (other.serve requests).value ∧
      (one.serve requests).network.reserved = (other.serve requests).network.reserved ∧
      (one.serve requests).network.generator = (other.serve requests).network.generator := by
  induction requests generalizing here there one other with
  | nil => exact ⟨rfl, inStep.reserved_eq, inStep.generator_eq⟩
  | cons request requests ih =>
    obtain ⟨reply, hereAfter, thereAfter, sameAfter, after⟩ := inStep.perform_same same request
    obtain ⟨replies, rest⟩ := ih sameAfter after
    exact ⟨List.cons_eq_cons.mpr ⟨reply, replies⟩, rest⟩

-- Nothing that a network does depends on where its block lies, on its version or on the host it was
-- written with: what is asked there in the same places is answered here in the same places.
theorem serve_placeless {one other : Network} (generators : one.generator = other.generator)
    (reservations : one.reserved = other.reserved) :
    (one.block.hostBits = other.block.hostBits → ∀ requests requestsThere,
      List.Forall₂ (Request.Corresponds one.block other.block) requests requestsThere →
      List.Forall₂ (Reply.Corresponds one.block other.block) (one.serve requests).value
        (other.serve requestsThere).value ∧
      ∀ count, InStep one.block other.block (one.serve (requests.take count)).network
        (other.serve (requestsThere.take count)).network) ∧
    (Network.compare one other = .eq → ∀ requests,
      (one.serve requests).value = (other.serve requests).value ∧
      (one.serve requests).network.reserved = (other.serve requests).network.reserved ∧
      (one.serve requests).network.generator = (other.serve requests).network.generator) := by
  constructor
  · intro width requests requestsThere asked
    have inStep : InStep one.block other.block one other :=
      ⟨width, rfl, rfl, reservations, generators⟩
    refine ⟨(inStep.serve asked).1, ?_⟩
    intro count
    exact (inStep.serve (List.forall₂_take count asked)).2
  · intro equal requests
    have same := (Block.compare_eq_iff one.block other.block).mp equal
    have inStep : InStep one.block other.block one other :=
      ⟨same.hostBits_eq, rfl, rfl, reservations, generators⟩
    exact inStep.serve_same same requests

theorem serve_placeless_versions :
    let one := (ofBlock ⟨Ip.wrap .v4 0x0a000007, 30, by decide⟩ (.ofSeed 7)).hold 2
    let other := (ofBlock ⟨Ip.wrap .v6 0x20010db8000000000000000000000001, 126, by decide⟩
      (.ofSeed 7)).hold 2
    let requests : List Request := [.reserve (.ip (Ip.wrap .v4 0x0a000005) 80), .reserveAny,
      .reserve (.ip (Ip.wrap .v4 0x0b000000) 0), .mapped [0x61], .reservedCount]
    let requestsThere : List Request :=
      [.reserve (.ip (Ip.wrap .v6 0x20010db8000000000000000000000001) 0), .reserveAny,
        .reserve .unspecified, .mapped [0x61], .reservedCount]
    one.generator = other.generator ∧ one.reserved = other.reserved ∧
      List.Forall₂ (Reply.Corresponds one.block other.block) (one.serve requests).value
        (other.serve requestsThere).value := by
  intro one other requests requestsThere
  have asked : List.Forall₂ (Request.Corresponds one.block other.block) requests requestsThere :=
    .cons (.reserve (.inside ⟨by decide, by decide, by decide⟩)) <| .cons .reserveAny <|
      .cons (.reserve (.outside (by decide) rfl)) <| .cons .mapped <| .cons .reservedCount .nil
  have generators : one.generator = other.generator := rfl
  have reservations : one.reserved = other.reserved := rfl
  have width : one.block.hostBits = other.block.hostBits := by decide
  exact ⟨generators, reservations,
    ((serve_placeless generators reservations).1 width requests requestsThere asked).1⟩

end Network
end AddressPool
