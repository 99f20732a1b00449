import AddressPool.Proofs.Network.Reached

namespace AddressPool.Network

-- The loop that looks for a free distance as it runs without any bound on its steps: the distances
-- it looks at, one after another, and the network that it leaves behind.
inductive Walks : Network → Nat → List Nat → Network → Prop where
  | take {network : Network} (free : network.isFree offset = true) :
      Walks network offset [offset] (network.hold offset)
  | pass {network : Network} (blocked : network.isFree offset = false)
      (rest : Walks network (network.following offset) examined after) :
      Walks network offset (offset :: examined) after

theorem Walks.unique {network after other : Network} {start : Nat} {examined seen : List Nat}
    (one : Walks network start examined after) (two : Walks network start seen other) :
    seen = examined ∧ other = after := by
  induction one generalizing seen other with
  | take free =>
    cases two with
    | take => exact ⟨rfl, rfl⟩
    | pass blocked =>
      rw [free] at blocked
      cases blocked
  | pass blocked rest ih =>
    cases two with
    | take free =>
      rw [free] at blocked
      cases blocked
    | pass _ others =>
      obtain ⟨rfl, rfl⟩ := ih others
      exact ⟨rfl, rfl⟩

def trail (network : Network) (start count : Nat) : List Nat :=
  (List.range count).map fun i => (start + i) % network.size

theorem trail_succ {network : Network} {start : Nat} (managed : start < network.size)
    (count : Nat) :
    network.trail start (count + 1) = start :: network.trail (network.following start) count := by
  have later : ∀ i ∈ List.range count,
      (start + (i + 1)) % network.size = (network.following start + i) % network.size :=
    fun i _ => (following_add managed i).symm
  rw [trail, List.range_succ_eq_map, List.map_cons, List.map_map, Nat.add_zero,
    Nat.mod_eq_of_lt managed]
  exact congrArg _ (List.map_congr_left later)

theorem trail_lt {network : Network} {start count offset : Nat}
    (member : offset ∈ network.trail start count) : offset < network.size := by
  obtain ⟨i, -, rfl⟩ := List.mem_map.mp member
  exact Nat.mod_lt _ network.size_pos

theorem trail_blocked {network : Network} {start passed offset : Nat}
    (blocked : ∀ i, i < passed → network.isFree ((start + i) % network.size) = false)
    (member : offset ∈ network.trail start passed) : network.isFree offset = false := by
  obtain ⟨i, before, rfl⟩ := List.mem_map.mp member
  exact blocked i (List.mem_range.mp before)

theorem walks_passed {network : Network} {start passed : Nat} (managed : start < network.size)
    (free : network.isFree ((start + passed) % network.size) = true)
    (blocked : ∀ i, i < passed → network.isFree ((start + i) % network.size) = false) :
    Walks network start (network.trail start passed ++ [(start + passed) % network.size])
      (network.hold ((start + passed) % network.size)) := by
  induction passed generalizing start with
  | zero =>
    have here : (start + 0) % network.size = start := Nat.mod_eq_of_lt managed
    rw [here] at free ⊢
    exact .take free
  | succ passed ih =>
    have here := blocked 0 (by omega)
    rw [Nat.add_zero, Nat.mod_eq_of_lt managed] at here
    have later := ih (following_lt managed)
    simp only [following_add managed] at later
    rw [trail_succ managed]
    exact .pass here (later free fun i before => blocked (i + 1) (by omega))

def circle (network : Network) (start : Nat) : List Nat :=
  List.range' start (network.size - start) ++ List.range start

theorem circle_eq {network : Network} {start : Nat} (managed : start < network.size) :
    network.circle start = network.trail start network.size := by
  have ahead : ∀ i ∈ List.range (network.size - start),
      start + i = (start + i) % network.size := by
    intro i member
    rw [List.mem_range] at member
    rw [Nat.mod_eq_of_lt (by omega)]
  have around : ∀ i ∈ List.range start,
      i = (start + (network.size - start + i)) % network.size := by
    intro i member
    rw [List.mem_range] at member
    have behind : start + (network.size - start + i) = i + network.size := by omega
    rw [behind, Nat.add_mod_right, Nat.mod_eq_of_lt (by omega)]
  have split : List.range network.size =
      List.range (network.size - start) ++
        (List.range start).map (network.size - start + ·) := by
    rw [← List.range_add, Nat.sub_add_cancel (Nat.le_of_lt managed)]
  rw [circle, trail, split, List.map_append, List.map_map, List.range'_eq_map_range]
  congr 1
  · exact List.map_congr_left ahead
  · exact (List.map_id _).symm.trans (List.map_congr_left around)

theorem circle_passed {network : Network} {start passed : Nat} (managed : start < network.size)
    (short : passed < network.size) :
    ∃ beyond, network.circle start =
      network.trail start passed ++ (start + passed) % network.size :: beyond := by
  have split : List.range network.size = List.range passed ++
      passed :: (List.range (network.size - (passed + 1))).map (passed + 1 + ·) := by
    have parts := List.range_add (n := passed + 1) (m := network.size - (passed + 1))
    rwa [Nat.add_sub_of_le short, List.range_succ, List.append_assoc, List.singleton_append]
      at parts
  rw [circle_eq managed, trail, split, List.map_append, List.map_cons]
  exact ⟨_, rfl⟩

theorem passed_lt {network : Network} {start passed : Nat}
    (free : network.isFree ((start + passed) % network.size) = true)
    (blocked : ∀ i, i < passed → network.isFree ((start + i) % network.size) = false) :
    passed < network.size := by
  apply Nat.lt_of_not_le
  intro around
  have positive := network.size_pos
  have earlier := blocked (passed - network.size) (by omega)
  have turn : start + (passed - network.size) + network.size = start + passed := by omega
  rw [← Nat.add_mod_right, turn, free] at earlier
  cases earlier

theorem probe_enough {network : Network} {start passed steps : Nat}
    (managed : start < network.size) (enough : passed < steps)
    (free : network.isFree ((start + passed) % network.size) = true)
    (blocked : ∀ i, i < passed → network.isFree ((start + i) % network.size) = false) :
    network.probe steps start = some ((start + passed) % network.size) :=
  (probe_eq_some_iff managed).mpr ⟨passed, enough, rfl, free, blocked⟩

-- A walk from a starting point looks at few distances, all of them managed, and takes the first
-- one on the circle that may be handed out. Nothing but that one is reserved, and a request for any
-- address that draws this starting point is served with it.
structure TakesFirst (network : Network) (start : Nat) (examined : List Nat) (found : Nat) :
    Prop where
  walks : Walks network start examined (network.hold found)
  alone : ∀ seen after, Walks network start seen after →
    seen = examined ∧ after = network.hold found
  few : examined.length ≤ network.reserved.size + 3
  managed : ∀ offset ∈ examined, offset < network.size
  first : ∃ passed beyond, examined = passed ++ [found] ∧
    network.circle start = passed ++ found :: beyond ∧ ∀ offset ∈ passed, offset ∉ network.spare
  spare : found ∈ network.spare
  bounded : ∀ steps, network.reserved.size + 3 ≤ steps → network.probe steps start = some found
  served : ∀ generator later, generator.below network.size = (start, later) →
    { network with generator : Network }.reserveAny =
      ⟨some (network.ipAt found), { network with generator := later : Network }.hold found,
        [.reserved (network.ipAt found) network.name]⟩

theorem probe_takesFirst {network : Network} {start found : Nat} (left : network.isExhausted = false)
    (managed : start < network.size)
    (walked : network.probe network.probeSteps start = some found) :
    ∃ examined, network.TakesFirst start examined found := by
  obtain ⟨passed, few, rfl, free, blocked⟩ := (probe_eq_some_iff managed).mp walked
  have short := passed_lt free blocked
  have walks := walks_passed managed free blocked
  refine ⟨network.trail start passed ++ [(start + passed) % network.size], ?_⟩
  constructor
  case walks => exact walks
  case alone => exact fun seen after other => walks.unique other
  case few =>
    rw [probeSteps] at few
    rw [List.length_append, List.length_singleton, trail, List.length_map, List.length_range]
    omega
  case managed =>
    intro offset member
    rcases List.mem_append.mp member with earlier | last
    · exact trail_lt earlier
    · rw [List.mem_singleton.mp last]
      exact Nat.mod_lt _ network.size_pos
  case first =>
    obtain ⟨beyond, shape⟩ := circle_passed managed short
    refine ⟨_, beyond, rfl, shape, ?_⟩
    intro offset member spare
    have clash := (spare_iff_isFree.mp spare).2
    rw [trail_blocked blocked member] at clash
    cases clash
  case spare => exact spare_iff_isFree.mpr ⟨Nat.mod_lt _ network.size_pos, free⟩
  case bounded =>
    intro steps enough
    rw [probeSteps] at few
    exact probe_enough managed (by omega) free blocked
  case served =>
    intro generator later drawn
    have unexhausted : { network with generator : Network }.isExhausted = false := left
    have probed : { network with generator : Network }.probe
        { network with generator : Network }.probeSteps start =
        some ((start + passed) % network.size) := probe_enough managed few free blocked
    have size : { network with generator : Network }.size = network.size := rfl
    unfold reserveAny
    rw [if_neg (by rw [unexhausted]; exact Bool.false_ne_true), size, drawn]
    simp only [probed]
    rfl

theorem reached_takesFirst {network : Network} (reached : network.Reached)
    (left : network.isExhausted = false) {start : Nat} (managed : start < network.size) :
    ∃ examined found, network.TakesFirst start examined found := by
  have some : network.spare ≠ ∅ := by
    intro none
    rw [(isExhausted_iff reached.valid).mpr none] at left
    cases left
  obtain ⟨found, walked, -⟩ := probe_finds managed some
  obtain ⟨examined, takes⟩ := probe_takesFirst left managed walked
  exact ⟨examined, found, takes⟩

theorem reached_takesFirst_around :
    let start := ofBlock ⟨Ip.wrap .v4 0x0a000000, 29, by decide⟩ (.ofSeed 7)
    let network := (start.serve [.reserve (.ip (Ip.wrap .v4 0x0a000001) 0),
      .reserve (.ip (Ip.wrap .v4 0x0a000002) 80)]).network
    network.Reached ∧ network.isExhausted = false ∧ 7 < network.size ∧
      ∃ examined found, network.TakesFirst 7 examined found := by
  intro start network
  have reached : network.Reached := ⟨_, _, .ofBlock _ _, rfl⟩
  have left : network.isExhausted = false := by decide +kernel
  have managed : 7 < network.size := by decide +kernel
  exact ⟨reached, left, managed, reached_takesFirst reached left managed⟩

end AddressPool.Network
