import AddressPool.Proofs.Network.Reached

namespace AddressPool

-- A network as seen by those who know addresses only: the block it manages and the numbers of
-- the addresses it holds. Distances, trees and counting have no place in it.
structure Holding where
  block : Block
  held : Finset Nat

namespace Holding

def opened (block : Block) : Holding := ⟨block, ∅⟩

def add (holding : Holding) (ip : Ip) : Holding :=
  { holding with held := insert ip.value holding.held }

def remove (holding : Holding) (ip : Ip) : Holding :=
  { holding with held := holding.held.erase ip.value }

def size (holding : Holding) : Nat := min (2 ^ holding.block.hostBits) (2 ^ 64 - 1)

def Manages (holding : Holding) (ip : Ip) : Prop :=
  ip.version = holding.block.version ∧
    holding.block.base ≤ ip.value ∧ ip.value < holding.block.base + holding.size

def Holds (holding : Holding) (ip : Ip) : Prop :=
  ip.version = holding.block.version ∧ ip.value ∈ holding.held

def Offers (holding : Holding) (ip : Ip) : Prop :=
  holding.Manages ip ∧ ip.value ∉ holding.held ∧
    (2 < holding.size → ip.value ≠ holding.block.base ∧ ip.value ≠ holding.block.last)

def mapped (holding : Holding) (identifier : Bytes) : Ip :=
  holding.block.ipAt (holding.block.base +
    Bytes.ofBigEndian ((Sha256.digest identifier).take 8) % holding.size)

theorem add_held (holding : Holding) {ip : Ip} (holds : holding.Holds ip) :
    holding.add ip = holding := by
  rw [add, Finset.insert_eq_self.mpr holds.2]

-- The machine that holds a set of addresses. Only the choice of an offered address is open.
inductive Answers : Holding → Request → Reply → Holding → Prop where
  | reset {block : Block} (read : Block.ofNetspec netspec = .ok block) :
      Answers holding (.reset netspec) .done (opened block)
  | resetRefused (refused : Block.ofNetspec netspec = .error fault) :
      Answers holding (.reset netspec) (.fault fault) holding
  | handedOut (offered : holding.Offers ip) :
      Answers holding .reserveAny (.address ip) (holding.add ip)
  | noneLeft (none : ∀ ip, ¬holding.Offers ip) :
      Answers holding .reserveAny .noneLeft holding
  | reserved {address : Address} (host : address.host? = some ip) (manages : holding.Manages ip)
      (free : ip.value ∉ holding.held) :
      Answers holding (.reserve address) (.flag true) (holding.add ip)
  | reserveRefused {address : Address}
      (refused : ∀ ip, address.host? = some ip → holding.Manages ip → ip.value ∈ holding.held) :
      Answers holding (.reserve address) (.flag false) holding
  | released {address : Address} (host : address.host? = some ip) (holds : holding.Holds ip) :
      Answers holding (.release address) (.flag true) (holding.remove ip)
  | releaseRefused {address : Address}
      (refused : ∀ ip, address.host? = some ip → ¬holding.Holds ip) :
      Answers holding (.release address) (.flag false) holding
  | isReserved {address : Address}
      (exact : answer = true ↔ ∃ ip, address.host? = some ip ∧ holding.Holds ip) :
      Answers holding (.isReserved address) (.flag answer) holding
  | contains {address : Address}
      (exact : answer = true ↔ ∃ ip, address.host? = some ip ∧ ip.version = holding.block.version ∧
        holding.block.base ≤ ip.value ∧ ip.value ≤ holding.block.last) :
      Answers holding (.contains address) (.flag answer) holding
  | mapped : Answers holding (.mapped identifier) (.address (holding.mapped identifier)) holding
  | reserveMapped :
      Answers holding (.reserveMapped identifier) (.address (holding.mapped identifier))
        (holding.add (holding.mapped identifier))
  | isReservedId (exact : answer = true ↔ holding.Holds (holding.mapped identifier)) :
      Answers holding (.isReservedId identifier) (.flag answer) holding
  | reservedCount : Answers holding .reservedCount (.count holding.held.card) holding

inductive Runs : Holding → List Request → List Reply → Holding → Prop where
  | nil : Runs holding [] [] holding
  | cons (first : Answers before request reply middle)
      (rest : Runs middle requests replies after) :
      Runs before (request :: requests) (reply :: replies) after

theorem Answers.unique (one : Answers before request reply after)
    (two : Answers before request reply other) : other = after := by
  cases one with
  | reset read =>
    cases two with
    | reset again => cases Except.ok.inj (read.symm.trans again); rfl
  | reserved host =>
    cases two with
    | reserved again => cases Option.some.inj (host.symm.trans again); rfl
  | released host =>
    cases two with
    | released again => cases Option.some.inj (host.symm.trans again); rfl
  | resetRefused | handedOut | noneLeft | reserveRefused | releaseRefused | isReserved | contains
  | mapped | reserveMapped | isReservedId | reservedCount => cases two; rfl

theorem Runs.unique (one : Runs before requests replies after)
    (two : Runs before requests replies other) : other = after := by
  induction one generalizing other with
  | nil => cases two; rfl
  | cons first rest ih =>
    cases two with
    | cons again others =>
      cases again.unique first
      exact ih others

end Holding

namespace Network

def holding (network : Network) : Holding :=
  ⟨network.block, network.taken.image (network.block.base + ·)⟩

theorem mem_held {network : Network} {value : Nat} :
    value ∈ network.holding.held ↔
      ∃ offset ∈ network.reserved, network.block.base + offset = value := by
  simp [holding]

theorem held_add {network : Network} {offset : Nat} :
    network.block.base + offset ∈ network.holding.held ↔ offset ∈ network.reserved := by
  rw [mem_held]
  constructor
  · intro known
    obtain ⟨other, member, same⟩ := known
    cases Nat.add_left_cancel same
    exact member
  · intro member
    exact ⟨offset, member, rfl⟩

theorem card_held (network : Network) : network.holding.held.card = network.reserved.size := by
  rw [← card_taken]
  exact Finset.card_image_of_injective _ fun _ _ same => Nat.add_left_cancel same

theorem holding_size (network : Network) : network.holding.size = network.size :=
  network.size_eq.symm

theorem holding_manages {network : Network} {ip : Ip} :
    network.holding.Manages ip ↔ network.Manages ip := by
  rw [Holding.Manages, holding_size]
  rfl

theorem holding_mapped (network : Network) (identifier : Bytes) :
    network.holding.mapped identifier = network.mapped identifier := by
  rw [Holding.mapped, holding_size]
  rfl

theorem holds_iff {network : Network} (valid : network.Valid) {ip : Ip} :
    network.holding.Holds ip ↔
      network.Manages ip ∧ ip.value - network.block.base ∈ network.reserved := by
  constructor
  · intro known
    obtain ⟨version, member⟩ := known
    obtain ⟨offset, held, place⟩ := mem_held.mp member
    have managed := valid offset held
    have distance : ip.value - network.block.base = offset := by omega
    rw [distance]
    exact ⟨⟨version, by omega, by omega⟩, held⟩
  · intro known
    obtain ⟨⟨version, above, below⟩, held⟩ := known
    refine ⟨version, ?_⟩
    rw [← Nat.add_sub_of_le above]
    exact held_add.mpr held

theorem holds_ipAt {network : Network} (valid : network.Valid) {offset : Nat}
    (managed : offset < network.size) :
    network.holding.Holds (network.ipAt offset) ↔ offset ∈ network.reserved := by
  have distance : (network.ipAt offset).value - network.block.base = offset := by
    rw [ipAt_value managed]
    omega
  rw [holds_iff valid, distance]
  exact and_iff_right (manages_ipAt managed)

theorem holds_address {network : Network} (valid : network.Valid) {address : Address} :
    (∃ ip, address.host? = some ip ∧ network.holding.Holds ip) ↔
      ∃ offset, network.offset? address = some offset ∧ offset ∈ network.reserved := by
  constructor
  · intro known
    obtain ⟨ip, host, holds⟩ := known
    obtain ⟨manages, held⟩ := (holds_iff valid).mp holds
    exact ⟨_, offset?_eq_some_iff.mpr ⟨ip, host, manages, rfl⟩, held⟩
  · intro known
    obtain ⟨offset, found, held⟩ := known
    obtain ⟨ip, host, manages, rfl⟩ := offset?_eq_some_iff.mp found
    exact ⟨ip, host, (holds_iff valid).mpr ⟨manages, held⟩⟩

theorem holding_hold {network : Network} {offset : Nat} (managed : offset < network.size) :
    (network.hold offset).holding = network.holding.add (network.ipAt offset) := by
  have held : (network.hold offset).holding.held =
      (network.holding.add (network.ipAt offset)).held := by
    ext value
    rw [mem_held, Holding.add, Finset.mem_insert, mem_held, ipAt_value managed]
    constructor
    · intro known
      obtain ⟨other, member, place⟩ := known
      rcases mem_hold.mp member with rfl | prior
      · exact .inl place.symm
      · exact .inr ⟨other, prior, place⟩
    · intro known
      rcases known with rfl | ⟨other, prior, place⟩
      · exact ⟨offset, mem_hold.mpr (.inl rfl), rfl⟩
      · exact ⟨other, mem_hold.mpr (.inr prior), place⟩
  exact congrArg (Holding.mk network.block) held

theorem holding_free {network : Network} {offset : Nat} (managed : offset < network.size) :
    (network.free offset).holding = network.holding.remove (network.ipAt offset) := by
  have held : (network.free offset).holding.held =
      (network.holding.remove (network.ipAt offset)).held := by
    ext value
    rw [mem_held, Holding.remove, Finset.mem_erase, mem_held, ipAt_value managed]
    constructor
    · intro known
      obtain ⟨other, member, rfl⟩ := known
      obtain ⟨differ, prior⟩ := mem_free.mp member
      exact ⟨fun same => differ (Nat.add_left_cancel same), other, prior, rfl⟩
    · intro known
      obtain ⟨differ, other, prior, rfl⟩ := known
      exact ⟨other, mem_free.mpr ⟨fun same => differ (by rw [same]), prior⟩, rfl⟩
  exact congrArg (Holding.mk network.block) held

theorem holding_ofBlock (block : Block) (generator : Generator) :
    (ofBlock block generator).holding = .opened block := by
  have held : (ofBlock block generator).holding.held = ∅ := by
    rw [← Finset.card_eq_zero, card_held]
    exact Std.ExtTreeSet.size_empty
  exact congrArg (Holding.mk block) held

theorem offers_iff {network : Network} {ip : Ip} :
    network.holding.Offers ip ↔ ∃ offset ∈ network.spare, network.ipAt offset = ip := by
  rw [Holding.Offers, holding_manages, holding_size]
  constructor
  · intro known
    obtain ⟨manages, free, inner⟩ := known
    have place := Nat.add_sub_of_le manages.2.1
    rw [← place] at free inner
    refine ⟨ip.value - network.block.base, mem_spare.mpr ⟨?_, mt held_add.mpr free, ?_⟩,
      manages.ipAt⟩
    · have above := manages.2.1
      have below := manages.2.2
      omega
    · intro large
      obtain ⟨notFirst, notLast⟩ := inner large
      exact ⟨fun zero => notFirst (by rw [zero]; rfl), notLast⟩
  · intro known
    obtain ⟨offset, member, rfl⟩ := known
    obtain ⟨managed, free, inner⟩ := mem_spare.mp member
    rw [ipAt_value managed]
    refine ⟨manages_ipAt managed, mt held_add.mp free, ?_⟩
    intro large
    obtain ⟨notFirst, notLast⟩ := inner large
    refine ⟨fun first => notFirst ?_, notLast⟩
    exact Nat.add_left_cancel (first : network.block.base + offset = network.block.base + 0)

theorem outcome_answers {network : Network} {request : Request} {step : Step Reply}
    (valid : network.Valid) (outcome : Outcome network request step) :
    network.holding.Answers request step.value step.network.holding := by
  cases outcome with
  | reset read =>
    rw [holding_ofBlock]
    exact .reset read
  | resetRefused refused => exact .resetRefused refused
  | handedOut offset generator member =>
    have drawn : ({ network with generator }.hold offset).holding = (network.hold offset).holding :=
      rfl
    rw [drawn, holding_hold (mem_spare.mp member).1]
    exact .handedOut (offers_iff.mpr ⟨offset, member, rfl⟩)
  | noneLeft none =>
    refine .noneLeft fun ip offered => ?_
    obtain ⟨offset, member, -⟩ := offers_iff.mp offered
    rw [none] at member
    cases member
  | reserved found free =>
    obtain ⟨ip, host, manages, rfl⟩ := offset?_eq_some_iff.mp found
    rw [holding_hold (offset?_lt found), manages.ipAt]
    refine .reserved host (holding_manages.mpr manages) fun held => free ?_
    exact ((holds_iff valid).mp ⟨manages.1, held⟩).2
  | reserveTaken found held =>
    refine .reserveRefused fun ip host manages => ?_
    have known := offset?_eq_some_iff.mpr ⟨ip, host, holding_manages.mp manages, rfl⟩
    cases Option.some.inj (found.symm.trans known)
    exact ((holds_iff valid).mpr ⟨holding_manages.mp manages, held⟩).2
  | reserveOutside absent =>
    refine .reserveRefused fun ip host manages => ?_
    exact absurd (holding_manages.mp manages) (offset?_eq_none_iff.mp absent ip host)
  | released found held =>
    obtain ⟨ip, host, manages, rfl⟩ := offset?_eq_some_iff.mp found
    rw [holding_free (offset?_lt found), manages.ipAt]
    exact .released host ((holds_iff valid).mpr ⟨manages, held⟩)
  | releaseRefused refused =>
    refine .releaseRefused fun ip host holds => ?_
    obtain ⟨offset, found, held⟩ := (holds_address valid).mp ⟨ip, host, holds⟩
    exact refused offset found held
  | isReserved => exact .isReserved (isReserved_iff.trans (holds_address valid).symm)
  | contains =>
    refine .contains ?_
    simp only [Network.contains, Option.any_eq_true, Block.contains_iff]
    rfl
  | mapped =>
    rw [← holding_mapped]
    exact .mapped
  | reservedMapped free =>
    have managed := network.mappedOffset_lt
    rw [holding_hold (managed _), ← Network.mapped, ← holding_mapped]
    exact .reserveMapped
  | @mappedTaken identifier held =>
    have holds : network.holding.Holds (network.mapped identifier) :=
      (holds_ipAt valid (network.mappedOffset_lt identifier)).mpr held
    have answer : network.holding.Answers (.reserveMapped identifier)
        (.address (network.holding.mapped identifier))
        (network.holding.add (network.holding.mapped identifier)) := .reserveMapped
    rw [holding_mapped, network.holding.add_held holds] at answer
    exact answer
  | isReservedId =>
    refine .isReservedId ?_
    rw [isReservedId, isReserved_iff, ← holds_address valid, holding_mapped]
    constructor
    · intro known
      obtain ⟨ip, host, holds⟩ := known
      cases host
      exact holds
    · intro holds
      exact ⟨_, rfl, holds⟩
  | reservedCount =>
    rw [← card_held]
    exact .reservedCount

theorem serve_runs {network : Network} (valid : network.Valid) (requests : List Request) :
    Holding.Runs network.holding requests (network.serve requests).value
      (network.serve requests).network.holding := by
  induction requests generalizing network with
  | nil => exact .nil
  | cons request requests ih =>
    exact .cons (outcome_answers valid (perform_outcome valid request))
      (ih (perform_valid valid request))

structure Agrees (network : Network) (holding : Holding) : Prop where
  block_eq : network.block = holding.block
  base_clear : network.block.base &&& network.block.hostMask = 0
  offsets_inside : ∀ offset ∈ network.reserved, offset < network.size ∧
    network.first.value ≤ network.block.base + offset ∧
    network.block.base + offset ≤ network.last.value
  isReserved_iff : ∀ address, network.isReserved address = true ↔
    ∃ ip, address.host? = some ip ∧ ip.version = network.block.version ∧ ip.value ∈ holding.held
  size_reserved : network.reserved.size = holding.held.card
  reserve_iff : ∀ address, (network.reserve address).value = true ↔
    ∃ ip, address.host? = some ip ∧ ip.version = network.block.version ∧
      network.first.value ≤ ip.value ∧ ip.value < network.first.value + network.size ∧
      ip.value ∉ holding.held
  reserve_adds : ∀ address ip, address.host? = some ip →
    (network.reserve address).value = true →
    (network.reserve address).network.holding = holding.add ip ∧
      (network.reserve address).network.generator = network.generator
  reserve_refuses : ∀ address, (network.reserve address).value = false →
    (network.reserve address).network = network
  release_iff : ∀ address, (network.release address).value = true ↔
    ∃ ip, address.host? = some ip ∧ ip.version = network.block.version ∧ ip.value ∈ holding.held
  release_removes : ∀ address ip, address.host? = some ip →
    (network.release address).value = true →
    (network.release address).network.holding = holding.remove ip ∧
      (network.release address).network.generator = network.generator
  release_refuses : ∀ address, (network.release address).value = false →
    (network.release address).network = network
  reserveAny_adds : ∀ ip, network.reserveAny.value = some ip →
    ip.version = network.block.version ∧ network.first.value ≤ ip.value ∧
      ip.value < network.first.value + network.size ∧ ip.value ∉ holding.held ∧
      network.reserveAny.network.holding = holding.add ip
  reserveAny_refuses : network.reserveAny.value = none → network.reserveAny.network = network
  mapped_inside : ∀ identifier, (network.mapped identifier).version = network.block.version ∧
    network.first.value ≤ (network.mapped identifier).value ∧
      (network.mapped identifier).value < network.first.value + network.size
  reserveMapped_adds : ∀ identifier,
    (network.reserveMapped identifier).value = network.mapped identifier ∧
      (network.reserveMapped identifier).network.holding = holding.add (network.mapped identifier)

theorem reserve_true_iff {network : Network} (valid : network.Valid) {address : Address} :
    (network.reserve address).value = true ↔
      ∃ ip, address.host? = some ip ∧ network.Manages ip ∧ ip.value ∉ network.holding.held := by
  constructor
  · intro answer
    rcases network.reserve_cases address with ⟨offset, found, free, -⟩ | ⟨refused, -⟩
    · obtain ⟨ip, host, manages, rfl⟩ := offset?_eq_some_iff.mp found
      exact ⟨ip, host, manages, fun held => free ((holds_iff valid).mp ⟨manages.1, held⟩).2⟩
    · rw [refused] at answer
      cases answer
  · intro admitted
    obtain ⟨ip, host, manages, free⟩ := admitted
    have found := offset?_eq_some_iff.mpr ⟨ip, host, manages, rfl⟩
    have fresh : ip.value - network.block.base ∉ network.reserved :=
      fun held => free ((holds_iff valid).mpr ⟨manages, held⟩).2
    rw [reserve_found found fresh]

theorem release_true_iff {network : Network} {address : Address} :
    (network.release address).value = true ↔ network.isReserved address = true := by
  rw [isReserved_iff]
  constructor
  · intro answer
    rcases network.release_cases address with ⟨offset, found, held, -⟩ | ⟨-, step⟩
    · exact ⟨offset, found, held⟩
    · rw [step] at answer
      cases answer
  · intro known
    obtain ⟨offset, found, held⟩ := known
    rw [release_found found held]

theorem reserve_adds {network : Network} {address : Address} {ip : Ip}
    (host : address.host? = some ip) (answer : (network.reserve address).value = true) :
    (network.reserve address).network.holding = network.holding.add ip ∧
      (network.reserve address).network.generator = network.generator := by
  rcases network.reserve_cases address with ⟨offset, found, -, step⟩ | ⟨refused, -⟩
  · obtain ⟨same, known, manages, rfl⟩ := offset?_eq_some_iff.mp found
    cases Option.some.inj (host.symm.trans known)
    rw [step]
    refine ⟨?_, rfl⟩
    rw [holding_hold (offset?_lt found), manages.ipAt]
  · rw [refused] at answer
    cases answer

theorem release_removes {network : Network} {address : Address} {ip : Ip}
    (host : address.host? = some ip) (answer : (network.release address).value = true) :
    (network.release address).network.holding = network.holding.remove ip ∧
      (network.release address).network.generator = network.generator := by
  rcases network.release_cases address with ⟨offset, found, -, step⟩ | ⟨-, step⟩
  · obtain ⟨same, known, manages, rfl⟩ := offset?_eq_some_iff.mp found
    cases Option.some.inj (host.symm.trans known)
    rw [step]
    refine ⟨?_, rfl⟩
    rw [holding_free (offset?_lt found), manages.ipAt]
  · rw [step] at answer
    cases answer

theorem reserveMapped_adds {network : Network} (valid : network.Valid) (identifier : Bytes) :
    (network.reserveMapped identifier).value = network.mapped identifier ∧
      (network.reserveMapped identifier).network.holding =
        network.holding.add (network.mapped identifier) := by
  have answer : network.holding.Answers (.reserveMapped identifier)
      (.address (network.mapped identifier)) (network.reserveMapped identifier).network.holding :=
    outcome_answers valid (perform_outcome valid (.reserveMapped identifier))
  rw [← holding_mapped] at answer ⊢
  refine ⟨(holding_mapped network identifier).symm, ?_⟩
  generalize (network.reserveMapped identifier).network.holding = after at answer
  cases answer with
  | reserveMapped => rfl

theorem reserveAny_adds {network : Network} (valid : network.Valid) {ip : Ip}
    (answer : network.reserveAny.value = some ip) :
    network.Manages ip ∧ ip.value ∉ network.holding.held ∧
      network.reserveAny.network.holding = network.holding.add ip := by
  obtain ⟨offset, generator, member, rfl, step⟩ := reserveAny_some valid answer
  obtain ⟨managed, free, -⟩ := mem_spare.mp member
  have manages := manages_ipAt managed
  have fresh := mt (holds_ipAt valid managed).mp free
  have drawn : ({ network with generator }.hold offset).holding = (network.hold offset).holding :=
    rfl
  rw [step, drawn, holding_hold managed]
  exact ⟨manages, fun held => fresh ⟨manages.1, held⟩, rfl⟩

theorem isReserved_held {network : Network} (valid : network.Valid) (address : Address) :
    network.isReserved address = true ↔
      ∃ ip, address.host? = some ip ∧ ip.version = network.block.version ∧
        ip.value ∈ network.holding.held :=
  isReserved_iff.trans (holds_address valid).symm

theorem agrees {network : Network} (valid : network.Valid) : Agrees network network.holding where
  block_eq := rfl
  base_clear := network.block.base_and_hostMask
  offsets_inside := by
    intro offset member
    have managed := valid offset member
    rw [first_value, last_value]
    exact ⟨managed, Nat.le_add_right _ _, base_add_le_last managed⟩
  isReserved_iff := isReserved_held valid
  size_reserved := (card_held network).symm
  reserve_iff := by
    intro address
    rw [reserve_true_iff valid, first_value]
    simp only [Manages, and_assoc]
  reserve_adds := fun _ _ => reserve_adds
  reserve_refuses := fun _ => reserve_refuses
  release_iff := fun address => release_true_iff.trans (isReserved_held valid address)
  release_removes := fun _ _ => release_removes
  release_refuses := fun _ => release_refuses
  reserveAny_adds := by
    intro ip answer
    obtain ⟨manages, fresh, added⟩ := reserveAny_adds valid answer
    rw [first_value]
    exact ⟨manages.1, manages.2.1, manages.2.2, fresh, added⟩
  reserveAny_refuses := reserveAny_refuses valid
  mapped_inside := by
    intro identifier
    rw [first_value]
    exact manages_ipAt (network.mappedOffset_lt identifier)
  reserveMapped_adds := reserveMapped_adds valid

-- A network is a set of addresses: from its beginning on, whatever is asked of it in whatever
-- order, its answers are those of the machine that started with nothing held, they determine
-- what is held, and what is held determines what the network shows and does next.
theorem serve_refines {start : Network} (begun : Begun start) (requests : List Request) :
    ∃ holding : Holding,
      Holding.Runs (.opened start.block) requests (start.serve requests).value holding ∧
      (∀ other, Holding.Runs (.opened start.block) requests (start.serve requests).value other →
        other = holding) ∧
      Agrees (start.serve requests).network holding := by
  have opened : start.holding = .opened start.block := by
    rw [begun.ofBlock_eq]
    exact holding_ofBlock _ _
  have run := serve_runs begun.valid requests
  rw [opened] at run
  exact ⟨_, run, fun _ other => run.unique other, agrees (serve_valid begun.valid requests)⟩

theorem serve_refines_small :
    let start := ofBlock ⟨Ip.wrap .v4 0x0a000007, 30, by decide⟩ (.ofSeed 7)
    let requests : List Request := [.reserve (.ip (Ip.wrap .v4 0x0a000005) 80), .reserveAny,
      .reserveMapped [0x61], .reserve (.ip (Ip.wrap .v4 0x0b000000) 0),
      .release (.ip (Ip.wrap .v4 0x0a000005) 0), .reservedCount]
    (create "10.0.0.7/30" (.ofSeed 7)).1 = .ok start ∧
    ∃ holding : Holding,
      Holding.Runs (.opened start.block) requests (start.serve requests).value holding ∧
      (∀ other, Holding.Runs (.opened start.block) requests (start.serve requests).value other →
        other = holding) ∧
      Agrees (start.serve requests).network holding :=
  ⟨rfl, serve_refines (.created (show (create "10.0.0.7/30" (.ofSeed 7)).1 = .ok _ from rfl)) _⟩

end Network
end AddressPool
