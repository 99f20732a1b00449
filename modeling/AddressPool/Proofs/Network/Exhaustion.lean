import AddressPool.Proofs.Network.Reached

namespace AddressPool

def Request.givesBack : Request → Bool
  | .release _ | .reset _ => true
  | .reserveAny | .reserve _ | .isReserved _ | .contains _ | .mapped _ | .reserveMapped _
  | .isReservedId _ | .reservedCount => false

namespace Network

theorem spare_hold (network : Network) (offset : Nat) :
    (network.hold offset).spare = network.spare.erase offset := by
  ext other
  rw [Finset.mem_erase, mem_spare, mem_spare, mem_hold, not_or]
  change other < network.size ∧ (_ ∧ _) ∧ _ ↔ _
  tauto

theorem taken_hold (network : Network) (offset : Nat) :
    (network.hold offset).taken = insert offset network.taken := by
  ext other
  rw [Finset.mem_insert, mem_taken, mem_taken, mem_hold]

theorem outcome_spare {network : Network} {request : Request} {step : Step Reply}
    (keeps : request.givesBack = false) (outcome : Outcome network request step) :
    step.network.spare ⊆ network.spare := by
  cases outcome with
  | reset | resetRefused | released | releaseRefused => cases keeps
  | handedOut offset generator member =>
    have drawn : ({ network with generator }.hold offset).spare = (network.hold offset).spare := rfl
    rw [drawn, spare_hold]
    exact Finset.erase_subset _ _
  | reserved found free =>
    rw [spare_hold]
    exact Finset.erase_subset _ _
  | reservedMapped free =>
    rw [spare_hold]
    exact Finset.erase_subset _ _
  | noneLeft | reserveTaken | reserveOutside | isReserved | contains | mapped | mappedTaken
  | isReservedId | reservedCount => exact Finset.Subset.refl _

theorem serve_spare {network : Network} (valid : network.Valid) (requests : List Request)
    (keep : ∀ request ∈ requests, request.givesBack = false) :
    (network.serve requests).network.spare ⊆ network.spare := by
  induction requests generalizing network with
  | nil => exact Finset.Subset.refl _
  | cons request requests ih =>
    have first := outcome_spare (keep request List.mem_cons_self) (perform_outcome valid request)
    have rest := ih (perform_valid valid request)
      fun later member => keep later (List.mem_cons_of_mem _ member)
    exact rest.trans first

theorem serve_drains {network : Network} (valid : network.Valid) (count : Nat)
    (enough : count ≤ network.spare.card) :
    ∃ offsets : List Nat, offsets.length = count ∧ offsets.Nodup ∧
      offsets.toFinset ⊆ network.spare ∧
      (network.serve (List.replicate count .reserveAny)).value =
        offsets.map (fun offset => .address (network.ipAt offset)) ∧
      (network.serve (List.replicate count .reserveAny)).network.spare =
        network.spare \ offsets.toFinset ∧
      (network.serve (List.replicate count .reserveAny)).network.taken =
        network.taken ∪ offsets.toFinset := by
  induction count generalizing network with
  | zero => exact ⟨[], rfl, List.nodup_nil, by simp, rfl, by simp [serve], by simp [serve]⟩
  | succ count ih =>
    have left : network.spare ≠ ∅ := by
      intro none
      rw [none] at enough
      simp at enough
    obtain ⟨none, -⟩ | ⟨offset, generator, member, step⟩ := reserveAny_cases valid
    · exact absurd none left
    have performed : network.perform .reserveAny =
        ⟨.address (network.ipAt offset), { network with generator }.hold offset,
          [.reserved (network.ipAt offset) network.name]⟩ := by
      simp [perform, step]
    have spare : ({ network with generator }.hold offset).spare = network.spare.erase offset :=
      spare_hold _ _
    have taken : ({ network with generator }.hold offset).taken = insert offset network.taken :=
      taken_hold _ _
    have managed : ({ network with generator }.hold offset).Valid :=
      valid.hold (mem_spare.mp member).1
    obtain ⟨offsets, length, distinct, inside, replies, spareLater, takenLater⟩ :=
      ih managed (by rw [spare, Finset.card_erase_of_mem member]; omega)
    have fresh : offset ∉ offsets := by
      intro again
      have clash := inside (List.mem_toFinset.mpr again)
      rw [spare] at clash
      exact Finset.notMem_erase _ _ clash
    refine ⟨offset :: offsets, by rw [List.length_cons, length],
      List.nodup_cons.mpr ⟨fresh, distinct⟩, ?_, ?_, ?_, ?_⟩
    · rw [List.toFinset_cons, Finset.insert_subset_iff]
      refine ⟨member, inside.trans ?_⟩
      rw [spare]
      exact Finset.erase_subset _ _
    · simp only [List.replicate_succ, serve, performed, List.map_cons]
      rw [replies]
      rfl
    · simp only [List.replicate_succ, serve, performed]
      rw [spareLater, spare, List.toFinset_cons, Finset.sdiff_insert, Finset.erase_sdiff_comm]
    · simp only [List.replicate_succ, serve, performed]
      rw [takenLater, taken, List.toFinset_cons, Finset.insert_union, Finset.union_insert]

-- Handing out ends exactly where nothing is left, and not before, wherever the search starts.
structure HandsOutAll (network : Network) : Prop where
  none_iff : network.reserveAny.value = none ↔ network.spare = ∅
  none_unchanged : network.reserveAny.value = none → network.reserveAny.network = network
  some_spare : ∀ ip, network.reserveAny.value = some ip →
    ∃ offset ∈ network.spare, ip = network.ipAt offset ∧
      network.reserveAny.network.block = network.block ∧
      network.reserveAny.network.reserved = network.reserved.insert offset
  any_start : ∀ start, start < network.size → network.spare ≠ ∅ →
    ∃ offset, network.probe network.probeSteps start = some offset ∧ offset ∈ network.spare
  drains : ∃ offsets : List Nat, offsets.Nodup ∧ offsets.toFinset = network.spare ∧
    (offsets.map network.ipAt).Nodup ∧
    (network.serve (List.replicate network.spare.card .reserveAny)).value =
      offsets.map (fun offset => .address (network.ipAt offset)) ∧
    (network.serve (List.replicate network.spare.card .reserveAny)).network.taken =
      network.taken ∪ network.spare
  stays_drained : ∀ requests : List Request, (∀ request ∈ requests, request.givesBack = false) →
    let later := (network.serve (List.replicate network.spare.card .reserveAny ++ requests)).network
    later.reserveAny = ⟨none, later, [.exhausted later.name]⟩

theorem serve_all {network : Network} (valid : network.Valid) :
    ∃ offsets : List Nat, offsets.Nodup ∧ offsets.toFinset = network.spare ∧
      (network.serve (List.replicate network.spare.card .reserveAny)).value =
        offsets.map (fun offset => .address (network.ipAt offset)) ∧
      (network.serve (List.replicate network.spare.card .reserveAny)).network.spare = ∅ ∧
      (network.serve (List.replicate network.spare.card .reserveAny)).network.taken =
        network.taken ∪ network.spare := by
  obtain ⟨offsets, length, distinct, inside, replies, spare, taken⟩ :=
    serve_drains valid network.spare.card (Nat.le_refl _)
  have all : offsets.toFinset = network.spare := by
    apply Finset.eq_of_subset_of_card_le inside
    rw [List.toFinset_card_of_nodup distinct, length]
  rw [all] at spare taken
  rw [Finset.sdiff_self] at spare
  exact ⟨offsets, distinct, all, replies, spare, taken⟩

theorem distinct_addresses {network : Network} {offsets : List Nat} (distinct : offsets.Nodup)
    (inside : offsets.toFinset ⊆ network.spare) : (offsets.map network.ipAt).Nodup := by
  apply distinct.map_on
  intro a memberA b memberB same
  have managedA := inside (List.mem_toFinset.mpr memberA)
  have managedB := inside (List.mem_toFinset.mpr memberB)
  exact ipAt_injective (mem_spare.mp managedA).1 (mem_spare.mp managedB).1 same

theorem reserveAny_drained {network : Network} (valid : network.Valid) (drained : network.spare = ∅)
    {requests : List Request} (keep : ∀ request ∈ requests, request.givesBack = false) :
    (network.serve requests).network.reserveAny =
      ⟨none, (network.serve requests).network,
        [.exhausted (network.serve requests).network.name]⟩ := by
  have later := serve_spare valid requests keep
  rw [drained, Finset.subset_empty] at later
  rcases reserveAny_cases (serve_valid valid requests) with ⟨-, step⟩ | ⟨offset, -, member, -⟩
  · exact step
  · rw [later] at member
    cases member

-- Nothing of this depends on how the network came to be where it is: its reservations may be any
-- mix of addresses asked for, mapped and handed out, edges among them.
theorem reached_handsOutAll {network : Network} (reached : network.Reached) :
    network.HandsOutAll := by
  have valid := reached.valid
  obtain ⟨offsets, distinct, all, replies, drained, taken⟩ := serve_all valid
  refine ⟨reserveAny_none_iff valid, reserveAny_refuses valid, ?_, fun _ => probe_finds,
    ⟨offsets, distinct, all, distinct_addresses distinct all.subset, replies, taken⟩, ?_⟩
  · intro ip answer
    obtain ⟨offset, generator, member, same, step⟩ := reserveAny_some valid answer
    rw [step]
    exact ⟨offset, member, same, rfl, rfl⟩
  · intro requests keep
    have emptied := serve_valid valid (List.replicate network.spare.card .reserveAny)
    simp only
    rw [(serve_append network _ requests).1]
    exact reserveAny_drained emptied drained keep

theorem reached_handsOutAll_small :
    let start := ofBlock ⟨Ip.wrap .v4 0x0a000007, 30, by decide⟩ (.ofSeed 7)
    let network := (start.serve [.reserve (.ip (Ip.wrap .v4 0x0a000004) 0),
      .reserve (.ip (Ip.wrap .v4 0x0a000005) 80)]).network
    network.Reached ∧ network.HandsOutAll :=
  ⟨⟨_, _, .ofBlock _ _, rfl⟩, reached_handsOutAll ⟨_, _, .ofBlock _ _, rfl⟩⟩

end Network
end AddressPool
