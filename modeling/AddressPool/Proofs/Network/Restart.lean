import AddressPool.Proofs.Address.RoundTrip
import AddressPool.Proofs.Network.Reached

namespace AddressPool.Network

-- The netspec that a network was last written with. Only its history tells: reservations and
-- refused netspecs leave it alone, and a copy has it from the network it was taken of.
inductive Written : Network → String → Prop where
  | created {generator : Generator} (made : (create netspec generator).1 = .ok network) :
      Written network netspec
  | ofBlock (block : Block) (generator : Generator) :
      Written (ofBlock block generator) block.text
  | cloned (written : Written network netspec) : Written network.fresh netspec
  | rewritten (written : Written network earlier) (isNetspec : Block.isNetspec netspec = true) :
      Written (network.perform (.reset netspec)).network netspec
  | served (written : Written network netspec)
      (keeps : ∀ text, request = .reset text → Block.isNetspec text = false) :
      Written (network.perform request).network netspec

theorem isNetspec_iff (netspec : String) :
    Block.isNetspec netspec = true ↔ ∃ block, Block.ofNetspec netspec = .ok block := by
  unfold Block.isNetspec
  cases Block.ofNetspec netspec <;> simp [Except.isOk, Except.toBool]

theorem create_ok_iff {netspec : String} {generator : Generator} {network : Network} :
    (create netspec generator).1 = .ok network ↔
      ∃ block, Block.ofNetspec netspec = .ok block ∧ network = ofBlock block generator := by
  unfold create
  cases Block.ofNetspec netspec <;> simp [eq_comm]

theorem reset_ok {netspec : String} {block : Block} (read : Block.ofNetspec netspec = .ok block)
    (network : Network) :
    (network.reset netspec).value = .ok () ∧
      (network.reset netspec).network = ofBlock block network.generator := by
  simp [reset, read]

theorem reset_error {netspec : String} {fault : NetspecFault}
    (refused : Block.ofNetspec netspec = .error fault) (network : Network) :
    (network.reset netspec).value = .error fault ∧ (network.reset netspec).network = network := by
  simp [reset, refused]

theorem perform_reset (network : Network) (netspec : String) :
    (network.perform (.reset netspec)).network = (network.reset netspec).network := by
  unfold perform
  cases answer : (network.reset netspec).value <;> simp [answer]

theorem outcome_block {network : Network} {request : Request} {step : Step Reply}
    (keeps : ∀ netspec, request = .reset netspec → Block.isNetspec netspec = false)
    (outcome : Outcome network request step) : step.network.block = network.block := by
  cases outcome with
  | @reset netspec block read =>
    have accepted := (isNetspec_iff netspec).mpr ⟨block, read⟩
    rw [keeps netspec rfl] at accepted
    cases accepted
  | resetRefused | handedOut | noneLeft | reserved | reserveTaken | reserveOutside | released
  | releaseRefused | isReserved | contains | mapped | reservedMapped | mappedTaken | isReservedId
  | reservedCount => rfl

theorem Written.valid {network : Network} {netspec : String} (written : network.Written netspec) :
    network.Valid := by
  induction written with
  | created made => exact (Begun.created made).valid
  | ofBlock block generator => exact .ofBlock block generator
  | cloned written ih => exact .ofBlock _ _
  | rewritten written isNetspec ih => exact perform_valid ih _
  | served written keeps ih => exact perform_valid ih _

theorem Written.reads {network : Network} {netspec : String} (written : network.Written netspec) :
    Block.ofNetspec netspec = .ok network.block := by
  induction written with
  | created made =>
    obtain ⟨block, read, rfl⟩ := create_ok_iff.mp made
    exact read
  | ofBlock block generator => exact block.ofNetspec_text
  | cloned written ih => exact ih
  | @rewritten network earlier netspec written isNetspec ih =>
    obtain ⟨block, read⟩ := (isNetspec_iff netspec).mp isNetspec
    rw [perform_reset, (reset_ok read network).2]
    exact read
  | served written keeps ih =>
    rw [outcome_block keeps (perform_outcome written.valid _)]
    exact ih

theorem Written.serve {network : Network} {netspec : String} (written : network.Written netspec)
    (requests : List Request) : ∃ later, (network.serve requests).network.Written later := by
  induction requests generalizing network netspec with
  | nil => exact ⟨netspec, written⟩
  | cons request requests ih =>
    by_cases rewrites : ∃ text, request = .reset text ∧ Block.isNetspec text = true
    · obtain ⟨text, rfl, isNetspec⟩ := rewrites
      exact ih (.rewritten written isNetspec)
    · refine ih (.served written ?_)
      intro text same
      by_contra isNetspec
      exact rewrites ⟨text, same, by simpa using isNetspec⟩

theorem Reached.written {network : Network} (reached : network.Reached) :
    ∃ netspec, network.Written netspec := by
  obtain ⟨start, requests, begun, rfl⟩ := reached
  cases begun with
  | created made => exact (Written.created made).serve requests
  | ofBlock block generator => exact (Written.ofBlock block generator).serve requests
  | cloned network => exact (Written.ofBlock network.block network.generator).serve requests

-- Two networks that are asked in turns, the first on the left and the second on the right.
def serveBoth (one other : Network) : List (Request ⊕ Request) → List (Reply ⊕ Reply)
  | [] => []
  | .inl request :: turns =>
    let step := one.perform request
    .inl step.value :: serveBoth step.network other turns
  | .inr request :: turns =>
    let step := other.perform request
    .inr step.value :: serveBoth one step.network turns

theorem serveBoth_apart (one other : Network) (turns : List (Request ⊕ Request)) :
    (serveBoth one other turns).filterMap Sum.getLeft? =
        (one.serve (turns.filterMap Sum.getLeft?)).value ∧
      (serveBoth one other turns).filterMap Sum.getRight? =
        (other.serve (turns.filterMap Sum.getRight?)).value := by
  induction turns generalizing one other with
  | nil => exact ⟨rfl, rfl⟩
  | cons turn turns ih =>
    cases turn with
    | inl request =>
      simpa [serveBoth, serve, List.filterMap_cons] using ih (one.perform request).network other
    | inr request =>
      simpa [serveBoth, serve, List.filterMap_cons] using ih one (other.perform request).network

def Begins (network : Network) (netspec : String) (generator : Generator) : Prop :=
  (create netspec generator).1 = .ok network ∧ network.reserved = ∅ ∧
    network.generator = generator

theorem begins_ofBlock {netspec : String} {block : Block}
    (read : Block.ofNetspec netspec = .ok block) (generator : Generator) :
    (ofBlock block generator).Begins netspec generator :=
  ⟨create_ok_iff.mpr ⟨block, read, rfl⟩, rfl, rfl⟩

-- A network either starts over completely or goes on as if it had not been asked to, and a copy is
-- a network that has started over.
structure StartsOver (network : Network) : Prop where
  reset_isOk : ∀ netspec, (network.reset netspec).value.isOk = Block.isNetspec netspec
  refused : ∀ netspec, (network.reset netspec).value.isOk = false →
    (network.reset netspec).network = network ∧
      ∀ requests, (network.reset netspec).network.serve requests = network.serve requests
  accepted : ∀ netspec, (network.reset netspec).value.isOk = true →
    ∃ begun : Network, begun.Begins netspec network.generator ∧
      ∀ requests, (network.reset netspec).network.serve requests = begun.serve requests
  copy_equal : Network.compare network.fresh network = .eq ∧
    network.fresh.gateway = network.gateway ∧ network.fresh.text = network.text
  written : ∃ netspec, network.Written netspec
  copy_begins : ∀ netspec, network.Written netspec →
    ∃ begun : Network, begun.Begins netspec network.generator ∧
      ∀ requests, network.fresh.serve requests = begun.serve requests
  copy_apart : ∀ turns : List (Request ⊕ Request),
    (serveBoth network network.fresh turns).filterMap Sum.getLeft? =
        (network.serve (turns.filterMap Sum.getLeft?)).value ∧
      (serveBoth network network.fresh turns).filterMap Sum.getRight? =
        (network.fresh.serve (turns.filterMap Sum.getRight?)).value

theorem reset_isOk (network : Network) (netspec : String) :
    (network.reset netspec).value.isOk = Block.isNetspec netspec := by
  unfold Block.isNetspec
  cases read : Block.ofNetspec netspec with
  | ok block =>
    rw [(reset_ok read network).1]
    rfl
  | error fault =>
    rw [(reset_error read network).1]
    rfl

theorem reset_refused {network : Network} {netspec : String}
    (refused : (network.reset netspec).value.isOk = false) :
    (network.reset netspec).network = network := by
  cases read : Block.ofNetspec netspec with
  | ok block =>
    rw [(reset_ok read network).1] at refused
    cases refused
  | error fault => exact (reset_error read network).2

theorem reset_accepted {network : Network} {netspec : String}
    (accepted : (network.reset netspec).value.isOk = true) :
    (network.reset netspec).network.Begins netspec network.generator := by
  cases read : Block.ofNetspec netspec with
  | ok block =>
    rw [(reset_ok read network).2]
    exact begins_ofBlock read network.generator
  | error fault =>
    rw [(reset_error read network).1] at accepted
    cases accepted

theorem reached_startsOver {network : Network} (reached : network.Reached) :
    network.StartsOver where
  reset_isOk := network.reset_isOk
  refused := by
    intro netspec refused
    have same := reset_refused refused
    refine ⟨same, ?_⟩
    intro requests
    rw [same]
  accepted := by
    intro netspec accepted
    exact ⟨_, reset_accepted accepted, fun _ => rfl⟩
  copy_equal := by
    refine ⟨?_, rfl, rfl⟩
    exact (Block.compare_eq_iff network.block network.block).mpr ⟨rfl, rfl, rfl⟩
  written := reached.written
  copy_begins := by
    intro netspec written
    exact ⟨network.fresh, begins_ofBlock written.reads network.generator, fun _ => rfl⟩
  copy_apart := serveBoth_apart network network.fresh

theorem reached_startsOver_used :
    let start := ofBlock ⟨Ip.wrap .v4 0x0a000007, 30, by decide⟩ (.ofSeed 7)
    let network := (start.serve [.reserveAny, .reserveMapped [0x61]]).network
    network.Reached ∧ network.StartsOver :=
  have begun := Begun.created (show (create "10.0.0.7/30" (.ofSeed 7)).1 = .ok _ from rfl)
  have reached := ⟨_, _, begun, rfl⟩
  ⟨reached, reached_startsOver reached⟩

end AddressPool.Network
