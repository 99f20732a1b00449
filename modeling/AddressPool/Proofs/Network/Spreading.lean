import AddressPool.Proofs.Network.Journal
import AddressPool.Proofs.Network.Restart

namespace AddressPool.Network

-- Identifiers are spread over a network by their digests. Nothing that holds of their addresses
-- depends on the digest: here the digest is any function, of which SHA-256 is one.

section
variable (digest : Bytes → Bytes)

def mappedOffsetBy (network : Network) (identifier : Bytes) : Nat :=
  Bytes.ofBigEndian ((digest identifier).take 8) % network.size

def mappedBy (network : Network) (identifier : Bytes) : Ip :=
  network.ipAt (network.mappedOffsetBy digest identifier)

def reserveMappedBy (network : Network) (identifier : Bytes) : Step Ip :=
  let ip := network.mappedBy digest identifier
  let step := network.reserve (.ofIp ip)
  ⟨ip, step.network, if step.value then step.log else step.log ++ [.alreadyReserved ip]⟩

def isReservedIdBy (network : Network) (identifier : Bytes) : Bool :=
  network.isReserved (.ofIp (network.mappedBy digest identifier))

def performBy (network : Network) : Request → Step Reply
  | .mapped identifier => ⟨.address (network.mappedBy digest identifier), network, []⟩
  | .reserveMapped identifier =>
    let step := network.reserveMappedBy digest identifier
    ⟨.address step.value, step.network, step.log⟩
  | .isReservedId identifier => ⟨.flag (network.isReservedIdBy digest identifier), network, []⟩
  | request => network.perform request

def serveBy (network : Network) : List Request → Step (List Reply)
  | [] => ⟨[], network, []⟩
  | request :: requests =>
    let step := network.performBy digest request
    let rest := step.network.serveBy requests
    ⟨step.value :: rest.value, rest.network, step.log ++ rest.log⟩

end

theorem performBy_sha256 (network : Network) (request : Request) :
    network.performBy Sha256.digest request = network.perform request := by
  cases request <;> rfl

theorem serveBy_sha256 (network : Network) (requests : List Request) :
    network.serveBy Sha256.digest requests = network.serve requests := by
  induction requests generalizing network with
  | nil => rfl
  | cons request requests ih => simp only [serveBy, serve, performBy_sha256, ih]

theorem performBy_block {digest : Bytes → Bytes} {network : Network} {request : Request}
    (keeps : ∀ netspec, request = .reset netspec → Block.isNetspec netspec = false) :
    (network.performBy digest request).network.block = network.block := by
  cases request with
  | reset netspec =>
    have refused : (network.reset netspec).value.isOk = false := by
      rw [reset_isOk, keeps netspec rfl]
    have same : (network.performBy digest (.reset netspec)).network = network :=
      (perform_reset network netspec).trans (reset_refused refused)
    rw [same]
  | reserveAny =>
    have same : (network.performBy digest .reserveAny).network = network.reserveAny.network := by
      simp only [performBy, perform]
      split <;> rfl
    rw [same, reserveAny_block]
  | reserve address => exact network.reserve_block address
  | release address => exact network.release_block address
  | reserveMapped identifier => exact network.reserve_block _
  | isReserved | contains | mapped | isReservedId | reservedCount => rfl

theorem serveBy_block {digest : Bytes → Bytes} {network : Network} {requests : List Request}
    (keeps : ∀ netspec, .reset netspec ∈ requests → Block.isNetspec netspec = false) :
    (network.serveBy digest requests).network.block = network.block := by
  induction requests generalizing network with
  | nil => rfl
  | cons request requests ih =>
    have first : (network.performBy digest request).network.block = network.block :=
      performBy_block fun netspec same => keeps netspec (by simp [same])
    have later : ((network.performBy digest request).network.serveBy digest
        requests).network.block = (network.performBy digest request).network.block :=
      ih fun netspec member => keeps netspec (by simp [member])
    exact later.trans first

theorem serve_block {network : Network} {requests : List Request}
    (keeps : ∀ netspec, .reset netspec ∈ requests → Block.isNetspec netspec = false) :
    (network.serve requests).network.block = network.block := by
  rw [← serveBy_sha256]
  exact serveBy_block keeps

theorem mappedBy_same {network other : Network} (same : network.block.Same other.block)
    (digest : Bytes → Bytes) (identifier : Bytes) :
    network.mappedBy digest identifier = other.mappedBy digest identifier := by
  have sizes : network.size = other.size := by rw [size, size, same.hostBits_eq]
  rw [mappedBy, mappedBy, mappedOffsetBy, mappedOffsetBy, sizes, ipAt, ipAt, Block.ipAt,
    Block.ipAt, same.version_eq, same.base_eq]

theorem mappedBy_block {network other : Network} (kept : network.block = other.block)
    (digest : Bytes → Bytes) (identifier : Bytes) :
    network.mappedBy digest identifier = other.mappedBy digest identifier := by
  apply mappedBy_same
  rw [kept]
  exact ⟨rfl, rfl, rfl⟩

section
variable (digest : Bytes → Bytes) (network : Network) (identifier : Bytes)

theorem mappedOffsetBy_lt : network.mappedOffsetBy digest identifier < network.size :=
  Nat.mod_lt _ network.size_pos

theorem offset?_mappedBy : network.offset? (.ofIp (network.mappedBy digest identifier)) =
    some (network.mappedOffsetBy digest identifier) :=
  offset?_ipAt (network.mappedOffsetBy_lt digest identifier) 0

theorem isReservedIdBy_eq : network.isReservedIdBy digest identifier =
    network.reserved.contains (network.mappedOffsetBy digest identifier) :=
  isReserved_ipAt (network.mappedOffsetBy_lt digest identifier)

theorem reserve_mappedBy : (network.reserve (.ofIp (network.mappedBy digest identifier))).value =
    !network.isReservedIdBy digest identifier := by
  unfold reserve
  rw [isReservedIdBy_eq, offset?_mappedBy]
  cases held : network.reserved.contains (network.mappedOffsetBy digest identifier) <;> simp [held]

theorem reserveMappedBy_cases :
    (network.isReservedIdBy digest identifier = true ∧
      (network.reserveMappedBy digest identifier).network = network) ∨
    (network.isReservedIdBy digest identifier = false ∧
      (network.reserveMappedBy digest identifier).network =
        network.turn true (network.mappedOffsetBy digest identifier)) := by
  have found := network.offset?_mappedBy digest identifier
  cases held : network.isReservedIdBy digest identifier with
  | true =>
    have member : network.mappedOffsetBy digest identifier ∈ network.reserved := by
      rw [← Std.ExtTreeSet.contains_iff_mem, ← isReservedIdBy_eq, held]
    refine .inl ⟨rfl, ?_⟩
    rw [reserveMappedBy, reserve_taken found member]
  | false =>
    have free : network.mappedOffsetBy digest identifier ∉ network.reserved := by
      rw [← Std.ExtTreeSet.contains_iff_mem, ← isReservedIdBy_eq, held]
      exact Bool.false_ne_true
    refine .inr ⟨rfl, ?_⟩
    rw [reserveMappedBy, reserve_found found free]
    rfl

theorem mappedBy_reserved (other : Bytes) :
    (network.reserveMappedBy digest identifier).network.mappedBy digest other =
      network.mappedBy digest other :=
  mappedBy_block (network.reserve_block _) digest other

theorem isReservedIdBy_reserved (other : Bytes) :
    (network.reserveMappedBy digest identifier).network.isReservedIdBy digest other =
      if network.mappedBy digest other = network.mappedBy digest identifier then true
      else network.isReservedIdBy digest other := by
  rw [isReservedIdBy, mappedBy_reserved]
  rcases network.reserveMappedBy_cases digest identifier with ⟨held, same⟩ | ⟨-, turned⟩
  · rw [same]
    split
    · rename_i meets
      rw [meets]
      exact held
    · rfl
  · rw [turned, isReserved_turn (network.mappedOffsetBy_lt digest identifier)]
    rfl

theorem size_reserved :
    (network.reserveMappedBy digest identifier).network.reserved.size =
      network.reserved.size + if network.isReservedIdBy digest identifier = true then 0 else 1 := by
  rcases network.reserveMappedBy_cases digest identifier with ⟨held, same⟩ | ⟨free, turned⟩
  · rw [same, if_pos held, Nat.add_zero]
  · rw [turned, free]
    rw [isReservedIdBy_eq] at free
    simpa using size_turn (show _ = !true from free)

end

-- An identifier has one address in a network, whatever happens there, and the address is one that
-- can be reserved. Reserving it concerns the identifiers that have the same address, and no others.
structure SpreadsBy (digest : Bytes → Bytes) (network : Network) : Prop where
  stays : ∀ identifier requests,
    (∀ netspec, .reset netspec ∈ requests → Block.isNetspec netspec = false) →
    (network.serveBy digest requests).network.mappedBy digest identifier =
      network.mappedBy digest identifier
  shared : ∀ identifier other, Network.compare network other = .eq →
    network.mappedBy digest identifier = other.mappedBy digest identifier
  inside : ∀ identifier, network.contains (.ofIp (network.mappedBy digest identifier)) = true
  managed : ∀ identifier, ∃ offset, offset < network.size ∧
    network.offset? (.ofIp (network.mappedBy digest identifier)) = some offset
  reservable : ∀ identifier,
    (network.reserve (.ofIp (network.mappedBy digest identifier))).value =
      !network.isReserved (.ofIp (network.mappedBy digest identifier))
  answer : ∀ identifier,
    (network.reserveMappedBy digest identifier).value = network.mappedBy digest identifier
  reserved : ∀ identifier,
    (network.reserveMappedBy digest identifier).network.isReservedIdBy digest identifier = true
  counted : ∀ identifier,
    (network.reserveMappedBy digest identifier).network.reserved.size = network.reserved.size +
      if network.isReserved (.ofIp (network.mappedBy digest identifier)) = true then 0 else 1
  again : ∀ identifier,
    let once := network.reserveMappedBy digest identifier
    let twice := once.network.reserveMappedBy digest identifier
    twice.value = once.value ∧ twice.network = once.network
  meets : ∀ identifier other,
    network.mappedBy digest other = network.mappedBy digest identifier →
    (network.reserveMappedBy digest identifier).network.isReservedIdBy digest other = true
  apart : ∀ identifier other,
    network.mappedBy digest other ≠ network.mappedBy digest identifier →
    (network.reserveMappedBy digest identifier).network.isReservedIdBy digest other =
      network.isReservedIdBy digest other

theorem spreadsBy (digest : Bytes → Bytes) (network : Network) : network.SpreadsBy digest where
  stays := fun identifier _ keeps => mappedBy_block (serveBy_block keeps) digest identifier
  shared := fun identifier _ equal =>
    mappedBy_same ((Block.compare_eq_iff _ _).mp equal) digest identifier
  inside := fun identifier => (manages_ipAt (network.mappedOffsetBy_lt digest identifier)).contains
  managed := fun identifier =>
    ⟨_, network.mappedOffsetBy_lt digest identifier, network.offset?_mappedBy digest identifier⟩
  reservable := network.reserve_mappedBy digest
  answer := fun _ => rfl
  reserved := by
    intro identifier
    rw [isReservedIdBy_reserved, if_pos rfl]
  counted := network.size_reserved digest
  again := by
    intro identifier once twice
    refine ⟨network.mappedBy_reserved digest identifier identifier, ?_⟩
    rcases once.network.reserveMappedBy_cases digest identifier with ⟨-, same⟩ | ⟨free, -⟩
    · exact same
    · rw [isReservedIdBy_reserved, if_pos rfl] at free
      cases free
  meets := by
    intro identifier other meets
    rw [isReservedIdBy_reserved, if_pos meets]
  apart := by
    intro identifier other apart
    rw [isReservedIdBy_reserved, if_neg apart]

structure SpreadsBySha256 (network : Network) : Prop where
  mapped : ∀ identifier, network.mapped identifier = network.mappedBy Sha256.digest identifier
  reserveMapped : ∀ identifier,
    network.reserveMapped identifier = network.reserveMappedBy Sha256.digest identifier
  isReservedId : ∀ identifier,
    network.isReservedId identifier = network.isReservedIdBy Sha256.digest identifier
  serve : ∀ requests, network.serve requests = network.serveBy Sha256.digest requests

theorem identifiers_spread (network : Network) :
    (∀ digest, network.SpreadsBy digest) ∧ network.SpreadsBySha256 := by
  refine ⟨fun digest => spreadsBy digest network, ?_⟩
  refine ⟨fun _ => rfl, fun _ => rfl, fun _ => rfl, ?_⟩
  intro requests
  exact (network.serveBy_sha256 requests).symm

end AddressPool.Network
