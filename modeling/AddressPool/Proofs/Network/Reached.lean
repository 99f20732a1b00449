import AddressPool.Network.Session
import AddressPool.Proofs.Network.Probe

namespace AddressPool

namespace Network

-- Everything that can come of a request to a network. Later laws go through these cases and
-- need not look into the operations.
inductive Outcome (network : Network) : Request → Step Reply → Prop where
  | reset {block : Block} (read : Block.ofNetspec netspec = .ok block) :
      Outcome network (.reset netspec)
        ⟨.done, ofBlock block network.generator,
          [.resetTo (ofBlock block network.generator).name]⟩
  | resetRefused (refused : Block.ofNetspec netspec = .error fault) :
      Outcome network (.reset netspec) ⟨.fault fault, network, AddressText.readLog netspec⟩
  | handedOut (offset : Nat) (generator : Generator) (member : offset ∈ network.spare) :
      Outcome network .reserveAny
        ⟨.address (network.ipAt offset), { network with generator }.hold offset,
          [.reserved (network.ipAt offset) network.name]⟩
  | noneLeft (none : network.spare = ∅) :
      Outcome network .reserveAny ⟨.noneLeft, network, [.exhausted network.name]⟩
  | reserved (found : network.offset? address = some offset) (free : offset ∉ network.reserved) :
      Outcome network (.reserve address)
        ⟨.flag true, network.hold offset, [.reserved (network.ipAt offset) network.name]⟩
  | reserveTaken (found : network.offset? address = some offset)
      (held : offset ∈ network.reserved) :
      Outcome network (.reserve address) ⟨.flag false, network, []⟩
  | reserveOutside (absent : network.offset? address = none) :
      Outcome network (.reserve address)
        ⟨.flag false, network, [.outside address network.name]⟩
  | released (found : network.offset? address = some offset) (held : offset ∈ network.reserved) :
      Outcome network (.release address)
        ⟨.flag true, network.free offset, [.released (network.ipAt offset) network.name]⟩
  | releaseRefused
      (refused : ∀ offset, network.offset? address = some offset → offset ∉ network.reserved) :
      Outcome network (.release address) ⟨.flag false, network, []⟩
  | isReserved :
      Outcome network (.isReserved address) ⟨.flag (network.isReserved address), network, []⟩
  | contains :
      Outcome network (.contains address) ⟨.flag (network.contains address), network, []⟩
  | mapped :
      Outcome network (.mapped identifier) ⟨.address (network.mapped identifier), network, []⟩
  | reservedMapped (free : network.mappedOffset identifier ∉ network.reserved) :
      Outcome network (.reserveMapped identifier)
        ⟨.address (network.mapped identifier), network.hold (network.mappedOffset identifier),
          [.reserved (network.mapped identifier) network.name]⟩
  | mappedTaken (held : network.mappedOffset identifier ∈ network.reserved) :
      Outcome network (.reserveMapped identifier)
        ⟨.address (network.mapped identifier), network,
          [.alreadyReserved (network.mapped identifier)]⟩
  | isReservedId :
      Outcome network (.isReservedId identifier)
        ⟨.flag (network.isReservedId identifier), network, []⟩
  | reservedCount :
      Outcome network .reservedCount ⟨.count network.reserved.size, network, []⟩

theorem reserve_found {network : Network} {address : Address} {offset : Nat}
    (found : network.offset? address = some offset) (free : offset ∉ network.reserved) :
    network.reserve address =
      ⟨true, network.hold offset, [.reserved (network.ipAt offset) network.name]⟩ := by
  rw [← Std.ExtTreeSet.contains_iff_mem] at free
  simp [reserve, found, free]

theorem reserve_taken {network : Network} {address : Address} {offset : Nat}
    (found : network.offset? address = some offset) (held : offset ∈ network.reserved) :
    network.reserve address = ⟨false, network, []⟩ := by
  rw [← Std.ExtTreeSet.contains_iff_mem] at held
  simp [reserve, found, held]

theorem reserve_outside {network : Network} {address : Address}
    (absent : network.offset? address = none) :
    network.reserve address = ⟨false, network, [.outside address network.name]⟩ := by
  simp [reserve, absent]

theorem release_found {network : Network} {address : Address} {offset : Nat}
    (found : network.offset? address = some offset) (held : offset ∈ network.reserved) :
    network.release address =
      ⟨true, network.free offset, [.released (network.ipAt offset) network.name]⟩ := by
  rw [← Std.ExtTreeSet.contains_iff_mem] at held
  simp [release, found, held]

theorem release_refused {network : Network} {address : Address}
    (refused : ∀ offset, network.offset? address = some offset → offset ∉ network.reserved) :
    network.release address = ⟨false, network, []⟩ := by
  unfold release
  cases found : network.offset? address with
  | none => rfl
  | some offset =>
    have free := refused offset found
    rw [← Std.ExtTreeSet.contains_iff_mem] at free
    simp [free]

theorem reserve_cases (network : Network) (address : Address) :
    (∃ offset, network.offset? address = some offset ∧ offset ∉ network.reserved ∧
      network.reserve address =
        ⟨true, network.hold offset, [.reserved (network.ipAt offset) network.name]⟩) ∨
    ((network.reserve address).value = false ∧ (network.reserve address).network = network) := by
  cases found : network.offset? address with
  | none =>
    rw [reserve_outside found]
    exact .inr ⟨rfl, rfl⟩
  | some offset =>
    by_cases held : offset ∈ network.reserved
    · rw [reserve_taken found held]
      exact .inr ⟨rfl, rfl⟩
    · exact .inl ⟨offset, rfl, held, reserve_found found held⟩

theorem reserve_refuses {network : Network} {address : Address}
    (answer : (network.reserve address).value = false) :
    (network.reserve address).network = network := by
  rcases network.reserve_cases address with ⟨offset, -, -, step⟩ | ⟨-, same⟩
  · rw [step] at answer
    cases answer
  · exact same

theorem release_cases (network : Network) (address : Address) :
    (∃ offset, network.offset? address = some offset ∧ offset ∈ network.reserved ∧
      network.release address =
        ⟨true, network.free offset, [.released (network.ipAt offset) network.name]⟩) ∨
    ((∀ offset, network.offset? address = some offset → offset ∉ network.reserved) ∧
      network.release address = ⟨false, network, []⟩) := by
  by_cases held : ∃ offset, network.offset? address = some offset ∧ offset ∈ network.reserved
  · obtain ⟨offset, found, held⟩ := held
    exact .inl ⟨offset, found, held, release_found found held⟩
  · have refused : ∀ offset, network.offset? address = some offset →
        offset ∉ network.reserved := fun offset found member => held ⟨offset, found, member⟩
    exact .inr ⟨refused, release_refused refused⟩

theorem release_refuses {network : Network} {address : Address}
    (answer : (network.release address).value = false) :
    (network.release address).network = network := by
  rcases network.release_cases address with ⟨offset, -, -, step⟩ | ⟨-, step⟩
  · rw [step] at answer
    cases answer
  · rw [step]

theorem reserve_block (network : Network) (address : Address) :
    (network.reserve address).network.block = network.block := by
  rcases network.reserve_cases address with ⟨offset, -, -, step⟩ | ⟨-, same⟩
  · rw [step]
    rfl
  · rw [same]

theorem release_block (network : Network) (address : Address) :
    (network.release address).network.block = network.block := by
  rcases network.release_cases address with ⟨offset, -, -, step⟩ | ⟨-, step⟩
  · rw [step]
    rfl
  · rw [step]

theorem isReserved_iff {network : Network} {address : Address} :
    network.isReserved address = true ↔
      ∃ offset, network.offset? address = some offset ∧ offset ∈ network.reserved := by
  simp [isReserved, Option.any_eq_true]

theorem reserveAny_cases {network : Network} (valid : network.Valid) :
    (network.spare = ∅ ∧ network.reserveAny = ⟨none, network, [.exhausted network.name]⟩) ∨
    ∃ offset generator, offset ∈ network.spare ∧
      network.reserveAny =
        ⟨some (network.ipAt offset), { network with generator }.hold offset,
          [.reserved (network.ipAt offset) network.name]⟩ := by
  unfold reserveAny
  by_cases left : network.spare = ∅
  · rw [if_pos ((isExhausted_iff valid).mpr left)]
    exact .inl ⟨left, rfl⟩
  · have start := Generator.below_lt network.size_pos network.generator
    obtain ⟨offset, found, member⟩ := probe_finds start left
    refine .inr ⟨offset, (network.generator.below network.size).2, member, ?_⟩
    rw [if_neg (mt (isExhausted_iff valid).mp left)]
    simp only [found]

theorem reserveAny_refuses {network : Network} (valid : network.Valid)
    (answer : network.reserveAny.value = none) : network.reserveAny.network = network := by
  rcases reserveAny_cases valid with ⟨-, step⟩ | ⟨offset, generator, -, step⟩
  · rw [step]
  · rw [step] at answer
    cases answer

theorem reserveAny_some {network : Network} (valid : network.Valid) {ip : Ip}
    (answer : network.reserveAny.value = some ip) :
    ∃ offset generator, offset ∈ network.spare ∧ ip = network.ipAt offset ∧
      network.reserveAny.network = { network with generator }.hold offset := by
  rcases reserveAny_cases valid with ⟨-, step⟩ | ⟨offset, generator, member, step⟩
  · rw [step] at answer
    cases answer
  · rw [step] at answer ⊢
    exact ⟨offset, generator, member, (Option.some.inj answer).symm, rfl⟩

theorem reserveAny_none_iff {network : Network} (valid : network.Valid) :
    network.reserveAny.value = none ↔ network.spare = ∅ := by
  rcases reserveAny_cases valid with ⟨none, step⟩ | ⟨offset, generator, member, step⟩
  · simp [none, step]
  · simp [Finset.ne_empty_of_mem member, step]

theorem reserveAny_block (network : Network) :
    network.reserveAny.network.block = network.block := by
  unfold reserveAny
  split
  · rfl
  · dsimp only
    split <;> rfl

theorem perform_outcome {network : Network} (valid : network.Valid) (request : Request) :
    Outcome network request (network.perform request) := by
  cases request with
  | reset netspec =>
    cases read : Block.ofNetspec netspec with
    | ok block => simpa [perform, Network.reset, read] using Outcome.reset read
    | error fault => simpa [perform, Network.reset, read] using Outcome.resetRefused read
  | reserveAny =>
    rcases reserveAny_cases valid with ⟨none, step⟩ | ⟨offset, generator, member, step⟩
    · simpa [perform, step] using Outcome.noneLeft none
    · simpa [perform, step] using Outcome.handedOut offset generator member
  | reserve address =>
    cases found : network.offset? address with
    | none => simpa [perform, reserve_outside found] using Outcome.reserveOutside found
    | some offset =>
      by_cases held : offset ∈ network.reserved
      · simpa [perform, reserve_taken found held] using Outcome.reserveTaken found held
      · simpa [perform, reserve_found found held] using Outcome.reserved found held
  | release address =>
    rcases network.release_cases address with ⟨offset, found, held, step⟩ | ⟨refused, step⟩
    · simpa [perform, step] using Outcome.released found held
    · simpa [perform, step] using Outcome.releaseRefused refused
  | isReserved address => exact .isReserved
  | contains address => exact .contains
  | mapped identifier => exact .mapped
  | reserveMapped identifier =>
    have found : network.offset? (.ofIp (network.mapped identifier)) =
        some (network.mappedOffset identifier) :=
      offset?_ipAt (network.mappedOffset_lt identifier) 0
    by_cases held : network.mappedOffset identifier ∈ network.reserved
    · simpa [perform, reserveMapped, reserve_taken found held] using Outcome.mappedTaken held
    · simp only [perform, reserveMapped, reserve_found found held, if_true]
      exact .reservedMapped held
  | isReservedId identifier => exact .isReservedId
  | reservedCount => exact .reservedCount

theorem mem_hold {network : Network} {offset other : Nat} :
    other ∈ (network.hold offset).reserved ↔ other = offset ∨ other ∈ network.reserved := by
  simp only [hold, Std.ExtTreeSet.mem_insert, Nat.compare_eq_eq]
  exact or_congr_left eq_comm

theorem mem_free {network : Network} {offset other : Nat} :
    other ∈ (network.free offset).reserved ↔ other ≠ offset ∧ other ∈ network.reserved := by
  simp only [free, Std.ExtTreeSet.mem_erase, ne_eq, Nat.compare_eq_eq]
  exact and_congr_left fun _ => not_congr eq_comm

theorem Valid.hold {network : Network} (valid : network.Valid) {offset : Nat}
    (managed : offset < network.size) : (network.hold offset).Valid := by
  intro other member
  rcases mem_hold.mp member with rfl | prior
  · exact managed
  · exact valid other prior

theorem Valid.free {network : Network} (valid : network.Valid) (offset : Nat) :
    (network.free offset).Valid :=
  fun other member => valid other (mem_free.mp member).2

theorem Valid.ofBlock (block : Block) (generator : Generator) :
    (ofBlock block generator).Valid := by
  intro offset member
  exact absurd member Std.ExtTreeSet.not_mem_empty

theorem outcome_valid {network : Network} {request : Request} {step : Step Reply}
    (valid : network.Valid) (outcome : Outcome network request step) : step.network.Valid := by
  cases outcome with
  | reset read => exact .ofBlock _ _
  | handedOut offset generator member =>
    have drawn : { network with generator : Network }.Valid := valid
    exact drawn.hold (mem_spare.mp member).1
  | reserved found free => exact valid.hold (offset?_lt found)
  | released found held => exact valid.free _
  | reservedMapped free => exact valid.hold (network.mappedOffset_lt _)
  | resetRefused | noneLeft | reserveTaken | reserveOutside | releaseRefused | isReserved
  | contains | mapped | mappedTaken | isReservedId | reservedCount => exact valid

theorem perform_valid {network : Network} (valid : network.Valid) (request : Request) :
    (network.perform request).network.Valid :=
  outcome_valid valid (perform_outcome valid request)

theorem serve_valid {network : Network} (valid : network.Valid) (requests : List Request) :
    (network.serve requests).network.Valid := by
  induction requests generalizing network with
  | nil => exact valid
  | cons request requests ih => exact ih (perform_valid valid request)

theorem serve_append (network : Network) (earlier later : List Request) :
    (network.serve (earlier ++ later)).network =
        ((network.serve earlier).network.serve later).network ∧
      (network.serve (earlier ++ later)).value =
        (network.serve earlier).value ++ ((network.serve earlier).network.serve later).value := by
  induction earlier generalizing network with
  | nil => exact ⟨rfl, rfl⟩
  | cons request earlier ih =>
    obtain ⟨state, replies⟩ := ih (network.perform request).network
    exact ⟨state, congrArg (_ :: ·) replies⟩

-- The ways to come by a network: from a netspec, seeded or not, from a block that was read
-- elsewhere, or as a copy of any other network.
inductive Begun : Network → Prop where
  | created {netspec : String} {generator : Generator} {network : Network}
      (made : (create netspec generator).1 = .ok network) : Begun network
  | ofBlock (block : Block) (generator : Generator) : Begun (ofBlock block generator)
  | cloned (network : Network) : Begun network.fresh

theorem Begun.ofBlock_eq {network : Network} (begun : Begun network) :
    network = Network.ofBlock network.block network.generator := by
  cases begun with
  | created made =>
    unfold create at made
    split at made
    · cases made
    · cases made
      rfl
  | ofBlock block generator => rfl
  | cloned network => rfl

theorem Begun.valid {network : Network} (begun : Begun network) : network.Valid := by
  rw [begun.ofBlock_eq]
  exact .ofBlock _ _

def Reached (network : Network) : Prop :=
  ∃ start requests, Begun start ∧ (start.serve requests).network = network

theorem Reached.valid {network : Network} (reached : network.Reached) : network.Valid := by
  obtain ⟨start, requests, begun, rfl⟩ := reached
  exact serve_valid begun.valid requests

theorem Reached.serve {network : Network} (reached : network.Reached) (requests : List Request) :
    (network.serve requests).network.Reached := by
  obtain ⟨start, earlier, begun, rfl⟩ := reached
  exact ⟨start, earlier ++ requests, begun, (serve_append start earlier requests).1⟩

end Network
end AddressPool
