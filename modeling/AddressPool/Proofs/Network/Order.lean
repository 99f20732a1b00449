import AddressPool.Proofs.Network.Grants
import AddressPool.Proofs.Network.Journal

namespace AddressPool

namespace Request

def turn (reserved : Bool) (address : Address) : Request :=
  match reserved with
  | true => .reserve address
  | false => .release address

inductive About (address : Address) : Request → Prop where
  | turn (reserved : Bool) : About address (turn reserved address)
  | isReserved : About address (.isReserved address)
  | contains : About address (.contains address)

inductive SameButPort : Request → Request → Prop where
  | same : SameButPort request request
  | reserve : SameButPort (.reserve (.ip host written)) (.reserve (.ip host other))
  | release : SameButPort (.release (.ip host written)) (.release (.ip host other))
  | isReserved : SameButPort (.isReserved (.ip host written)) (.isReserved (.ip host other))
  | contains : SameButPort (.contains (.ip host written)) (.contains (.ip host other))

end Request

def Address.Apart (one other : Address) : Prop := ∀ ip, one.host? = some ip → other.host? ≠ some ip

theorem Address.Apart.symm {one other : Address} (apart : one.Apart other) : other.Apart one :=
  fun ip there here => apart ip here there

namespace Network

theorem eq_of_members {one other : Network} (blocks : one.block = other.block)
    (generators : one.generator = other.generator)
    (members : ∀ offset, offset ∈ one.reserved ↔ offset ∈ other.reserved) : one = other := by
  have reservations : one.reserved = other.reserved := Std.ExtTreeSet.ext_mem members
  cases one
  cases other
  simp_all

theorem offset?_apart {network : Network} {one other : Address} (apart : one.Apart other)
    {offset : Nat} (found : network.offset? one = some offset) :
    network.offset? other ≠ some offset := by
  intro again
  obtain ⟨ip, host, manages, rfl⟩ := offset?_eq_some_iff.mp found
  obtain ⟨ip', host', manages', places⟩ := offset?_eq_some_iff.mp again
  have same : ip' = ip := by rw [← manages'.ipAt, ← places, manages.ipAt]
  rw [same] at host'
  exact apart ip host host'

def standing (network : Network) (address : Address) : Option Bool :=
  (network.offset? address).map network.reserved.contains

-- An address is turned if it stands the other way, and stands as it was asked to from then on.
theorem perform_turn_cases (network : Network) (reserved : Bool) (address : Address) :
    (∃ offset, network.offset? address = some offset ∧
      network.reserved.contains offset = !reserved ∧
      (network.perform (.turn reserved address)).value = .flag true ∧
      (network.perform (.turn reserved address)).network = network.turn reserved offset) ∨
    ((∀ offset, network.offset? address = some offset →
        network.reserved.contains offset = reserved) ∧
      (network.perform (.turn reserved address)).value = .flag false ∧
      (network.perform (.turn reserved address)).network = network) := by
  cases found : network.offset? address with
  | none =>
    refine .inr ⟨by simp, ?_⟩
    cases reserved <;> simp [Request.turn, perform, reserve, release, found]
  | some offset =>
    by_cases held : offset ∈ network.reserved
    · have contained := Std.ExtTreeSet.contains_iff_mem.mpr held
      cases reserved with
      | true => simp [Request.turn, perform, reserve_taken found held, held]
      | false =>
        refine .inl ⟨offset, rfl, contained, ?_⟩
        simp [Request.turn, perform, release_found found held, turn]
    · have free : network.reserved.contains offset = false := by
        rw [Bool.eq_false_iff, ne_eq, Std.ExtTreeSet.contains_iff_mem]
        exact held
      cases reserved with
      | true =>
        refine .inl ⟨offset, rfl, free, ?_⟩
        simp [Request.turn, perform, reserve_found found held, turn]
      | false =>
        have refused : ∀ other, network.offset? address = some other →
            other ∉ network.reserved := by
          intro other same
          cases Option.some.inj (found.symm.trans same)
          exact held
        simp [Request.turn, perform, release_refused refused, free]

section
variable (network : Network) (reserved : Bool) (address : Address)

theorem perform_turn_block :
    (network.perform (.turn reserved address)).network.block = network.block := by
  cases reserved with
  | true => exact network.reserve_block address
  | false => exact network.release_block address

theorem perform_turn_generator :
    (network.perform (.turn reserved address)).network.generator = network.generator := by
  rcases network.perform_turn_cases reserved address with ⟨offset, -, -, -, after⟩ | ⟨-, -, after⟩
  · rw [after]
    cases reserved <;> rfl
  · rw [after]

theorem mem_perform_turn (offset : Nat) :
    offset ∈ (network.perform (.turn reserved address)).network.reserved ↔
      if network.offset? address = some offset then reserved = true
      else offset ∈ network.reserved := by
  rcases network.perform_turn_cases reserved address with
    ⟨place, found, -, -, after⟩ | ⟨settled, -, after⟩
  · rw [after, mem_turn, found]
    simp [eq_comm]
  · rw [after]
    split
    · rename_i found
      rw [← Std.ExtTreeSet.contains_iff_mem, settled offset found]
    · rfl

theorem perform_turn_value :
    (network.perform (.turn reserved address)).value =
      .flag (network.standing address == some (!reserved)) := by
  rw [standing]
  rcases network.perform_turn_cases reserved address with
    ⟨place, found, turns, value, -⟩ | ⟨settled, value, -⟩
  · rw [value, found]
    simp [turns]
  · rw [value]
    cases found : network.offset? address with
    | none => rfl
    | some offset => cases reserved <;> simp [settled offset found]

end

theorem standing_turn (network : Network) (reserved : Bool) {one other : Address}
    (apart : one.Apart other) :
    (network.perform (.turn reserved one)).network.standing other = network.standing other := by
  rw [standing, standing, offset?_of_block (network.perform_turn_block reserved one)]
  cases found : network.offset? other with
  | none => rfl
  | some offset =>
    have elsewhere := offset?_apart apart.symm found
    refine congrArg some ?_
    rw [Bool.eq_iff_iff, Std.ExtTreeSet.contains_iff_mem, Std.ExtTreeSet.contains_iff_mem,
      mem_perform_turn, if_neg elsewhere]

theorem about_reply {address : Address} {request : Request} (about : request.About address)
    {one other : Network} (blocks : one.block = other.block)
    (standings : one.standing address = other.standing address) :
    (one.perform request).value = (other.perform request).value := by
  cases about with
  | turn reserved => rw [perform_turn_value, perform_turn_value, standings]
  | isReserved =>
    have asked : ∀ network : Network, network.isReserved address =
        (network.standing address).any id := by
      intro network
      rw [Network.isReserved, standing]
      cases network.offset? address <;> rfl
    simp only [perform, asked, standings]
  | contains => simp only [perform, Network.contains, blocks]

theorem turns_commute (network : Network) (reserved reserved' : Bool) {one other : Address}
    (apart : one.Apart other) :
    ((network.perform (.turn reserved one)).network.perform (.turn reserved' other)).network =
      ((network.perform (.turn reserved' other)).network.perform (.turn reserved one)).network := by
  apply eq_of_members
  · simp only [perform_turn_block]
  · simp only [perform_turn_generator]
  · intro offset
    have here : network.offset? one = some offset → network.offset? other ≠ some offset :=
      offset?_apart apart
    simp only [mem_perform_turn, offset?_of_block (perform_turn_block _ _ _)]
    by_cases first : network.offset? one = some offset
    · simp [first, here first]
    · simp [first]

theorem about_commute (network : Network) {one other : Address} (apart : one.Apart other)
    {first second : Request} (aboutOne : first.About one) (aboutOther : second.About other) :
    (network.serve [first, second]).network = (network.serve [second, first]).network ∧
      (network.serve [first, second]).value =
        [(network.perform first).value, (network.perform second).value] ∧
      (network.serve [second, first]).value =
        [(network.perform second).value, (network.perform first).value] := by
  have later : ((network.perform first).network.perform second).value =
      (network.perform second).value := by
    cases aboutOne with
    | turn reserved =>
      exact about_reply aboutOther (network.perform_turn_block reserved one)
        (network.standing_turn reserved apart)
    | isReserved | contains => rfl
  have later' : ((network.perform second).network.perform first).value =
      (network.perform first).value := by
    cases aboutOther with
    | turn reserved =>
      exact about_reply aboutOne (network.perform_turn_block reserved other)
        (network.standing_turn reserved apart.symm)
    | isReserved | contains => rfl
  refine ⟨?_, by simp only [serve, later], by simp only [serve, later']⟩
  cases aboutOne with
  | turn reserved =>
    cases aboutOther with
    | turn reserved' => exact network.turns_commute reserved reserved' apart
    | isReserved | contains => rfl
  | isReserved | contains => rfl

theorem serve_turn_keeps (network : Network) (reserved : Bool) (addresses : List Address) :
    (network.serve (addresses.map (.turn reserved))).network.block = network.block ∧
      (network.serve (addresses.map (.turn reserved))).network.generator = network.generator := by
  induction addresses generalizing network with
  | nil => exact ⟨rfl, rfl⟩
  | cons address addresses ih =>
    obtain ⟨block, generator⟩ := ih (network.perform (.turn reserved address)).network
    exact ⟨block.trans (network.perform_turn_block reserved address),
      generator.trans (network.perform_turn_generator reserved address)⟩

theorem mem_serve_turn (network : Network) (reserved : Bool) (addresses : List Address)
    (offset : Nat) :
    offset ∈ (network.serve (addresses.map (.turn reserved))).network.reserved ↔
      if ∃ address ∈ addresses, network.offset? address = some offset then reserved = true
      else offset ∈ network.reserved := by
  induction addresses generalizing network with
  | nil => simp [serve]
  | cons address addresses ih =>
    have rest := ih (network.perform (.turn reserved address)).network
    simp only [offset?_of_block (network.perform_turn_block reserved address),
      mem_perform_turn] at rest
    refine rest.trans ?_
    by_cases first : network.offset? address = some offset
    · simp [first]
    · simp [first]

def turnable (network : Network) (reserved : Bool) (addresses : List Address) : Finset Ip :=
  (addresses.filterMap Address.host?).toFinset.filter fun ip =>
    network.Manages ip ∧ network.isReserved (.ofIp ip) = !reserved

theorem mem_turnable {network : Network} {reserved : Bool} {addresses : List Address} {ip : Ip} :
    ip ∈ network.turnable reserved addresses ↔
      (∃ address ∈ addresses, address.host? = some ip) ∧ network.Manages ip ∧
        network.isReserved (.ofIp ip) = !reserved := by
  simp [turnable]

theorem turnable_turned {network : Network} {reserved : Bool} {address : Address} {ip : Ip}
    {offset : Nat} (host : address.host? = some ip) (manages : network.Manages ip)
    (place : network.ipAt offset = ip) (managed : offset < network.size)
    (turns : network.reserved.contains offset = !reserved) (addresses : List Address) :
    network.turnable reserved (address :: addresses) =
        insert ip ((network.turn reserved offset).turnable reserved addresses) ∧
      ip ∉ (network.turn reserved offset).turnable reserved addresses := by
  have manages_turn : ∀ other, (network.turn reserved offset).Manages other ↔
      network.Manages other := by
    intro other
    cases reserved <;> rfl
  have stood := isReserved_ipAt managed
  rw [place, turns] at stood
  constructor
  · ext other
    rw [Finset.mem_insert, mem_turnable, mem_turnable, manages_turn, isReserved_turn managed, place]
    by_cases here : other = ip
    · subst here
      simp [host, manages, stood]
    · simp [here, host, Ne.symm here]
  · rw [mem_turnable, isReserved_turn managed, place, if_pos rfl]
    simp

theorem card_turnable_cons (network : Network) (reserved : Bool) (address : Address)
    (addresses : List Address) :
    (network.turnable reserved (address :: addresses)).card =
      ((network.perform (.turn reserved address)).network.turnable reserved addresses).card +
        if (network.perform (.turn reserved address)).value == .flag true then 1 else 0 := by
  rcases network.perform_turn_cases reserved address with
    ⟨offset, found, turns, value, after⟩ | ⟨settled, value, after⟩
  · obtain ⟨ip, host, manages, distance⟩ := offset?_eq_some_iff.mp found
    have place : network.ipAt offset = ip := by rw [distance, manages.ipAt]
    obtain ⟨all, fresh⟩ := turnable_turned host manages place (offset?_lt found) turns addresses
    rw [all, Finset.card_insert_of_notMem fresh, after, value]
    rfl
  · have all : network.turnable reserved (address :: addresses) =
        network.turnable reserved addresses := by
      ext ip
      rw [mem_turnable, mem_turnable]
      simp only [List.mem_cons, exists_eq_or_imp]
      refine and_congr_left fun stands => or_iff_right fun host => ?_
      obtain ⟨manages, other⟩ := stands
      have found := offset?_eq_some_iff.mpr ⟨ip, host, manages, rfl⟩
      have known := isReserved_ipAt (offset?_lt found)
      rw [manages.ipAt, settled _ found, other] at known
      cases reserved <;> cases known
    rw [all, after, value]
    rfl

theorem count_serve_turn (network : Network) (reserved : Bool) (addresses : List Address) :
    (network.serve (addresses.map (.turn reserved))).value.count (.flag true) =
      (network.turnable reserved addresses).card := by
  induction addresses generalizing network with
  | nil => rfl
  | cons address addresses ih =>
    have rest := ih (network.perform (.turn reserved address)).network
    rw [card_turnable_cons, ← rest, List.map_cons, serve, List.count_cons]

theorem serve_turn_perm (network : Network) (reserved : Bool) {addresses other : List Address}
    (perm : addresses.Perm other) :
    (network.serve (addresses.map (.turn reserved))).network =
        (network.serve (other.map (.turn reserved))).network ∧
      (network.serve (addresses.map (.turn reserved))).value.count (.flag true) =
        (network.serve (other.map (.turn reserved))).value.count (.flag true) := by
  constructor
  · obtain ⟨block, generator⟩ := network.serve_turn_keeps reserved addresses
    obtain ⟨block', generator'⟩ := network.serve_turn_keeps reserved other
    refine eq_of_members (block.trans block'.symm) (generator.trans generator'.symm) ?_
    intro offset
    simp only [mem_serve_turn, perm.mem_iff]
  · have hosts := List.toFinset_eq_of_perm _ _ (perm.filterMap Address.host?)
    rw [count_serve_turn, count_serve_turn, turnable, turnable, hosts]

theorem sameButPort_perform {one other : Request} (same : one.SameButPort other)
    (network : Network) :
    (network.perform one).value = (network.perform other).value ∧
      (network.perform one).network = (network.perform other).network := by
  cases same with
  | same => exact ⟨rfl, rfl⟩
  | @reserve host written other =>
    have places : network.offset? (.ip host written) = network.offset? (.ip host other) := rfl
    simp only [perform, reserve, places]
    cases network.offset? (.ip host other) <;> exact ⟨rfl, rfl⟩
  | release | isReserved | contains => exact ⟨rfl, rfl⟩

theorem sameButPort_serve {requests others : List Request}
    (same : List.Forall₂ Request.SameButPort requests others) (network : Network) :
    (network.serve requests).value = (network.serve others).value ∧
      (network.serve requests).network = (network.serve others).network := by
  induction same generalizing network with
  | nil => exact ⟨rfl, rfl⟩
  | @cons one other requests others first rest ih =>
    obtain ⟨value, after⟩ := sameButPort_perform first network
    obtain ⟨values, last⟩ := ih (network.perform other).network
    simp only [serve, value, after, values, last, and_self]

theorem perform_turn_back {network : Network} {reserved : Bool} {address : Address}
    (turned : (network.perform (.turn reserved address)).value = .flag true) :
    let after := (network.perform (.turn reserved address)).network
    (after.perform (.turn (!reserved) address)).value = .flag true ∧
      (after.perform (.turn (!reserved) address)).network = network := by
  intro after
  have places : after.offset? address = network.offset? address :=
    offset?_of_block (network.perform_turn_block reserved address) address
  rcases network.perform_turn_cases reserved address with
    ⟨offset, found, turns, -, -⟩ | ⟨-, value, -⟩
  · have held : after.reserved.contains offset = reserved := by
      rw [Bool.eq_iff_iff, Std.ExtTreeSet.contains_iff_mem, mem_perform_turn, if_pos found]
    constructor
    · rw [perform_turn_value, standing, places, found, Option.map_some, held, Bool.not_not]
      exact congrArg Reply.flag (beq_self_eq_true _)
    · apply eq_of_members
      · exact (after.perform_turn_block _ address).trans (network.perform_turn_block _ address)
      · exact (after.perform_turn_generator _ address).trans
          (network.perform_turn_generator _ address)
      · intro other
        rw [mem_perform_turn, places, mem_perform_turn]
        split
        · rename_i again
          cases Option.some.inj (found.symm.trans again)
          rw [← Std.ExtTreeSet.contains_iff_mem, turns]
        · rfl
  · rw [value] at turned
    cases turned

-- Addresses are reserved and released one by one, and each for itself: by whom they are asked for,
-- in which order and with which ports makes no difference.
structure Orderless (network : Network) : Prop where
  permuted : ∀ (reserved : Bool) (addresses other : List Address), addresses.Perm other →
    (network.serve (addresses.map (.turn reserved))).network =
        (network.serve (other.map (.turn reserved))).network ∧
      (network.serve (addresses.map (.turn reserved))).value.count (.flag true) =
        (network.serve (other.map (.turn reserved))).value.count (.flag true)
  counted : ∀ (reserved : Bool) (addresses : List Address),
    (network.serve (addresses.map (.turn reserved))).value.count (.flag true) =
      (network.turnable reserved addresses).card
  commute : ∀ one other : Address, one.Apart other → ∀ first second : Request,
    first.About one → second.About other →
    (network.serve [first, second]).network = (network.serve [second, first]).network ∧
      (network.serve [first, second]).value =
        [(network.perform first).value, (network.perform second).value] ∧
      (network.serve [second, first]).value =
        [(network.perform second).value, (network.perform first).value]
  portless : ∀ requests others, List.Forall₂ Request.SameButPort requests others →
    (network.serve requests).value = (network.serve others).value ∧
      (network.serve requests).network = (network.serve others).network
  undone : ∀ address, (network.reserve address).value = true →
    ((network.reserve address).network.release address).value = true ∧
      ((network.reserve address).network.release address).network = network

theorem orderless (network : Network) : network.Orderless where
  permuted := fun reserved _ _ => network.serve_turn_perm reserved
  counted := network.count_serve_turn
  commute := fun _ _ apart _ _ => network.about_commute apart
  portless := fun _ _ same => sameButPort_serve same network
  undone := by
    intro address taken
    have turned : (network.perform (.turn true address)).value = .flag true :=
      congrArg Reply.flag taken
    obtain ⟨value, back⟩ := perform_turn_back turned
    exact ⟨Reply.flag.inj value, back⟩

end Network
end AddressPool
