import AddressPool.Proofs.Network.Pool
import Mathlib.Data.Nat.ModEq

namespace AddressPool.Network

-- Probing goes around a circle of distances. A walk of so many steps from a starting point meets
-- the distances `(start + i) % size`, and it stops at the first free one.

theorem following_eq {network : Network} {offset : Nat} (managed : offset < network.size) :
    network.following offset = (offset + 1) % network.size := by
  rw [following]
  split
  · have turn : offset + 1 = network.size := by omega
    rw [turn, Nat.mod_self]
  · rw [Nat.mod_eq_of_lt (by omega)]

theorem following_lt {network : Network} {offset : Nat} (managed : offset < network.size) :
    network.following offset < network.size := by
  rw [following_eq managed]
  exact Nat.mod_lt _ network.size_pos

theorem following_add {network : Network} {offset : Nat} (managed : offset < network.size)
    (steps : Nat) :
    (network.following offset + steps) % network.size = (offset + (steps + 1)) % network.size := by
  rw [following_eq managed, Nat.mod_add_mod]
  congr 1
  omega

theorem probe_eq_some_iff {network : Network} {steps start found : Nat}
    (managed : start < network.size) :
    network.probe steps start = some found ↔
      ∃ passed, passed < steps ∧ found = (start + passed) % network.size ∧
        network.isFree found = true ∧
        ∀ i, i < passed → network.isFree ((start + i) % network.size) = false := by
  induction steps generalizing start with
  | zero => simp [probe]
  | succ steps ih =>
    have here : (start + 0) % network.size = start := Nat.mod_eq_of_lt managed
    rw [probe]
    cases free : network.isFree start with
    | true =>
      simp only [if_true, Option.some.injEq]
      constructor
      · intro same
        subst same
        exact ⟨0, by omega, here.symm, free, by omega⟩
      · intro known
        obtain ⟨passed, -, place, -, blocked⟩ := known
        cases passed with
        | zero => rw [place, here]
        | succ passed =>
          have clash := blocked 0 (by omega)
          rw [here, free] at clash
          cases clash
    | false =>
      have next := following_lt managed
      simp only [Bool.false_eq_true, if_false]
      rw [ih next]
      constructor
      · intro known
        obtain ⟨passed, bound, place, freeFound, blocked⟩ := known
        refine ⟨passed + 1, by omega, ?_, freeFound, ?_⟩
        · rw [place, following_add managed]
        · intro i before
          cases i with
          | zero => rw [here, free]
          | succ i =>
            rw [← following_add managed]
            exact blocked i (by omega)
      · intro known
        obtain ⟨passed, bound, place, freeFound, blocked⟩ := known
        cases passed with
        | zero =>
          rw [place, here, free] at freeFound
          cases freeFound
        | succ passed =>
          refine ⟨passed, by omega, ?_, freeFound, ?_⟩
          · rw [place, following_add managed]
          · intro i before
            rw [following_add managed]
            exact blocked (i + 1) (by omega)

theorem probe_eq_none {network : Network} {steps start : Nat} (managed : start < network.size)
    (missed : network.probe steps start = none) (i : Nat) (before : i < steps) :
    network.isFree ((start + i) % network.size) = false := by
  -- The first free distance of the walk, if there were one, would have been found.
  induction i using Nat.strongRecOn with
  | ind i ih =>
    cases free : network.isFree ((start + i) % network.size) with
    | false => rfl
    | true =>
      have found := (probe_eq_some_iff managed).mpr
        ⟨i, before, rfl, free, fun j earlier => ih j earlier (by omega)⟩
      rw [missed] at found
      cases found

theorem walk_meets {network : Network} {start offset : Nat} (managed : start < network.size)
    (target : offset < network.size) :
    ∃ i, i < network.size ∧ (start + i) % network.size = offset := by
  by_cases ahead : start ≤ offset
  · refine ⟨offset - start, by omega, ?_⟩
    rw [Nat.add_sub_of_le ahead, Nat.mod_eq_of_lt target]
  · refine ⟨offset + network.size - start, by omega, ?_⟩
    have turn : start + (offset + network.size - start) = offset + network.size := by omega
    rw [turn, Nat.add_mod_right, Nat.mod_eq_of_lt target]

theorem walk_injective {network : Network} {start i j : Nat} (left : i < network.size)
    (right : j < network.size)
    (same : (start + i) % network.size = (start + j) % network.size) : i = j := by
  have congruent : i ≡ j [MOD network.size] := Nat.ModEq.add_left_cancel' start same
  exact Nat.ModEq.eq_of_lt_of_lt congruent left right

theorem card_blocked_le (network : Network) (walked : Finset Nat)
    (managed : ∀ offset ∈ walked, network.isFree offset = false) :
    walked.card ≤ network.reserved.size + 2 := by
  have inside : walked ⊆ network.taken ∪ {0, network.block.hostMask} := by
    intro offset member
    have blocked := managed offset member
    rw [isFree, Bool.and_eq_false_iff, Bool.not_eq_false', Bool.not_eq_false', isEdge_iff,
      Std.ExtTreeSet.contains_iff_mem] at blocked
    simp only [Finset.mem_union, mem_taken, Finset.mem_insert, Finset.mem_singleton]
    rcases blocked with ⟨-, edge⟩ | held
    · exact .inr edge
    · exact .inl held
  have edges : ({0, network.block.hostMask} : Finset Nat).card ≤ 2 := Finset.card_le_two
  have bound := (Finset.card_le_card inside).trans (Finset.card_union_le _ _)
  rw [card_taken] at bound
  omega

-- If anything is left, a walk of `probeSteps` from any starting point finds it: a shorter circle
-- is walked all around, and on a longer one there are more steps than obstacles.
theorem probe_finds {network : Network} {start : Nat} (managed : start < network.size)
    (left : network.spare ≠ ∅) :
    ∃ found, network.probe network.probeSteps start = some found ∧ found ∈ network.spare := by
  cases walked : network.probe network.probeSteps start with
  | some found =>
    obtain ⟨passed, -, place, free, -⟩ := (probe_eq_some_iff managed).mp walked
    refine ⟨found, rfl, spare_iff_isFree.mpr ⟨?_, free⟩⟩
    rw [place]
    exact Nat.mod_lt _ network.size_pos
  | none =>
    exfalso
    have blocked := probe_eq_none managed walked
    rw [probeSteps] at blocked
    by_cases short : network.size ≤ network.reserved.size + 3
    · obtain ⟨offset, member⟩ := Finset.nonempty_iff_ne_empty.mpr left
      obtain ⟨target, free⟩ := spare_iff_isFree.mp member
      obtain ⟨i, bound, place⟩ := walk_meets managed target
      have clash := blocked i (by omega)
      rw [place, free] at clash
      cases clash
    · let met := (Finset.range (network.reserved.size + 3)).image
        fun i => (start + i) % network.size
      have distinct : met.card = network.reserved.size + 3 := by
        rw [Finset.card_image_of_injOn, Finset.card_range]
        intro i low j high same
        have low := Finset.mem_range.mp low
        have high := Finset.mem_range.mp high
        exact walk_injective (by omega) (by omega) same
      have few := network.card_blocked_le met (by
        intro offset member
        obtain ⟨i, before, rfl⟩ := Finset.mem_image.mp member
        exact blocked i (Finset.mem_range.mp before))
      omega

end AddressPool.Network
