import AddressPool.Job.Allocation
import AddressPool.Proofs.Log
import AddressPool.Proofs.Network.Grants
import Mathlib.Data.List.Induction

namespace AddressPool.Allocation

-- A job is carried out in three phases over one network: addresses asked for by number, then those
-- of identifiers, then any that are left. Each phase has a law for one step and one for its run.

def staticEvent (start : Network) (earlier : List Ip) (ip : Ip) : Event :=
  if start.Manages ip ∧ ip ∉ earlier then .line s!"static {ip.text}"
  else .notice (.refused ip start.name)

def staticEvents (start : Network) (ips : List Ip) : List Event :=
  ips.mapIdx fun place ip => staticEvent start (ips.take place) ip

def mapped (start : Network) (identifier : String) : Ip :=
  start.mapped (Text.utf8 identifier.toList)

def identifierEvent (start : Network) (identifier : String) : Event :=
  .line s!"{identifier} {(mapped start identifier).text}"

def anonymousEvent (ip : Ip) : Event := .line s!"anonymous {ip.text}"

theorem staticEvents_concat (start : Network) (ips : List Ip) (ip : Ip) :
    staticEvents start (ips ++ [ip]) = staticEvents start ips ++ [staticEvent start ips ip] := by
  unfold staticEvents
  rw [List.mapIdx_concat, List.take_left]
  congr 1
  apply List.mapIdx_eq_mapIdx_iff.mpr
  intro place inside
  rw [List.take_append_of_le_length (Nat.le_of_lt inside)]

def shown (allocation : Allocation) : List Event :=
  allocation.events.toList.filter Display.shows

@[simp] theorem shown_say (allocation : Allocation) (notices : List Notice) :
    (allocation.say notices).shown =
      allocation.shown ++ (notices.map Event.notice).filter Display.shows := by
  simp [say, shown]

@[simp] theorem shown_print (allocation : Allocation) (text : String) :
    (allocation.print text).shown = allocation.shown ++ [.line text] := by
  simp [print, shown]

@[simp] theorem shown_after {α : Type} (allocation : Allocation) (step : Step α) :
    (allocation.after step).shown =
      allocation.shown ++ (step.log.map Event.notice).filter Display.shows := by
  simp [after, say, shown]

-- Reserving an address by name is remarked on in traces only.
@[simp] theorem reserve_unshown (network : Network) (address : Address) :
    ((network.reserve address).log.map Event.notice).filter Display.shows = [] := by
  unfold Network.reserve
  split
  · rfl
  · split <;> rfl

@[simp] theorem reserveMapped_unshown (network : Network) (identifier : Bytes) :
    ((network.reserveMapped identifier).log.map Event.notice).filter Display.shows = [] := by
  unfold Network.reserveMapped
  simp only
  split
  · simp
  · simp

theorem reserveStatic_step {allocation : Allocation} {start : Network} {asked : List Ip}
    (grants : allocation.network.Grants start asked) (ip : Ip) :
    (allocation.reserveStatic ip).shown = allocation.shown ++ [staticEvent start asked ip] ∧
      (allocation.reserveStatic ip).network.Grants start (asked ++ [ip]) := by
  obtain ⟨answer, later⟩ := grants.reserve ip
  have name : (allocation.after (allocation.network.reserve (.ofIp ip))).network.name =
      start.name := Network.name_of_block later.block_eq
  unfold reserveStatic staticEvent
  by_cases granted : start.Manages ip ∧ ip ∉ asked
  · simp only [if_pos granted, answer.mpr granted, if_true]
    exact ⟨by simp, later⟩
  · simp only [if_neg granted, if_neg (mt answer.mp granted), name]
    exact ⟨by simp, later⟩

theorem reserveStatics_run {allocation : Allocation} {start : Network}
    (grants : allocation.network.Grants start []) (ips : List Ip) :
    (ips.foldl reserveStatic allocation).shown = allocation.shown ++ staticEvents start ips ∧
      (ips.foldl reserveStatic allocation).network.Grants start ips := by
  induction ips using List.reverseRecOn with
  | nil => exact ⟨by simp [staticEvents], grants⟩
  | append_singleton ips ip ih =>
    obtain ⟨shown, before⟩ := ih
    obtain ⟨event, after⟩ := reserveStatic_step before ip
    rw [List.foldl_append, List.foldl_cons, List.foldl_nil]
    refine ⟨?_, after⟩
    rw [event, shown, staticEvents_concat, List.append_assoc]

theorem reserveIdentifier_step {allocation : Allocation} {start : Network} {asked : List Ip}
    (grants : allocation.network.Grants start asked) (identifier : String) :
    (allocation.reserveIdentifier identifier).shown =
        allocation.shown ++ [identifierEvent start identifier] ∧
      (allocation.reserveIdentifier identifier).network.Grants start
        (asked ++ [mapped start identifier]) := by
  obtain ⟨answer, later⟩ := grants.reserveMapped (Text.utf8 identifier.toList)
  refine ⟨?_, later⟩
  unfold reserveIdentifier
  simp [answer, identifierEvent, mapped]

theorem reserveIdentifiers_run {allocation : Allocation} {start : Network} {asked : List Ip}
    (grants : allocation.network.Grants start asked) (identifiers : List String) :
    (identifiers.foldl reserveIdentifier allocation).shown =
        allocation.shown ++ identifiers.map (identifierEvent start) ∧
      (identifiers.foldl reserveIdentifier allocation).network.Grants start
        (asked ++ identifiers.map (mapped start)) := by
  induction identifiers generalizing allocation asked with
  | nil => simpa using grants
  | cons identifier identifiers ih =>
    obtain ⟨event, later⟩ := reserveIdentifier_step grants identifier
    obtain ⟨shown, all⟩ := ih later
    refine ⟨?_, ?_⟩
    · rw [List.foldl_cons, shown, event]
      simp
    · simpa using all

structure Passes (before : Allocation) (offset : Nat) (after : Allocation) : Prop where
  member : offset ∈ before.network.spare
  spare_eq : after.network.spare = before.network.spare.erase offset
  block_eq : after.network.block = before.network.block
  valid : after.network.Valid
  shown : after.shown = before.shown ++ [anonymousEvent (before.network.ipAt offset)]

theorem reserveAnonymous_step {allocation : Allocation} (valid : allocation.network.Valid)
    (count : Nat) :
    (allocation.network.spare = ∅ ∧ allocation.reserveAnonymous (count + 1) =
      (allocation.say [.exhausted allocation.network.name], false)) ∨
    ∃ offset next, Passes allocation offset next ∧
      allocation.reserveAnonymous (count + 1) = next.reserveAnonymous count := by
  rcases Network.reserveAny_cases valid with ⟨none, step⟩ | ⟨offset, generator, member, step⟩
  · rw [reserveAnonymous, step]
    exact .inl ⟨none, rfl⟩
  · refine .inr ⟨offset, (allocation.after allocation.network.reserveAny).print
      s!"anonymous {(allocation.network.ipAt offset).text}", ?_, ?_⟩
    · have drawn : { allocation.network with generator : Network }.Valid := valid
      rw [step]
      refine ⟨member, Network.spare_hold _ _, rfl, drawn.hold (Network.mem_spare.mp member).1, ?_⟩
      simp [anonymousEvent]
    · rw [reserveAnonymous, step]

def exhaustedEvents (network : Network) (enough : Bool) : List Event :=
  if enough then [] else [.notice (.exhausted network.name)]

structure HandsOut (before : Allocation) (count : Nat) (offsets : List Nat) (after : Allocation)
    (enough : Bool) : Prop where
  run : before.reserveAnonymous count = (after, enough)
  count_eq : offsets.length = min count before.network.spare.card
  distinct : offsets.Nodup
  spare : ∀ offset ∈ offsets, offset ∈ before.network.spare
  enough_iff : enough = true ↔ count ≤ before.network.spare.card
  block_eq : after.network.block = before.network.block
  shown : after.shown =
    before.shown ++ offsets.map (fun offset => anonymousEvent (before.network.ipAt offset)) ++
      exhaustedEvents before.network enough

theorem handsOut_zero (allocation : Allocation) : HandsOut allocation 0 [] allocation true where
  run := rfl
  count_eq := (Nat.zero_min _).symm
  distinct := List.nodup_nil
  spare := by simp
  enough_iff := by simp
  block_eq := rfl
  shown := by simp [exhaustedEvents]

theorem handsOut_none {allocation : Allocation} {count : Nat}
    (left : allocation.network.spare = ∅)
    (run : allocation.reserveAnonymous (count + 1) =
      (allocation.say [.exhausted allocation.network.name], false)) :
    HandsOut allocation (count + 1) [] (allocation.say [.exhausted allocation.network.name])
      false where
  run := run
  count_eq := by simp [left]
  distinct := List.nodup_nil
  spare := by simp
  enough_iff := by simp [left]
  block_eq := rfl
  shown := by simp [exhaustedEvents]

theorem Passes.handsOut {before next after : Allocation} {offset count : Nat} {offsets : List Nat}
    {enough : Bool} (passes : Passes before offset next)
    (run : before.reserveAnonymous (count + 1) = next.reserveAnonymous count)
    (rest : HandsOut next count offsets after enough) :
    HandsOut before (count + 1) (offset :: offsets) after enough := by
  have later : ∀ other ∈ offsets, other ≠ offset ∧ other ∈ before.network.spare := by
    intro other member
    have known := rest.spare other member
    rw [passes.spare_eq] at known
    exact Finset.mem_erase.mp known
  have card : next.network.spare.card + 1 = before.network.spare.card := by
    rw [passes.spare_eq]
    exact Finset.card_erase_add_one passes.member
  refine ⟨run.trans rest.run, ?_, ?_, ?_, ?_, rest.block_eq.trans passes.block_eq, ?_⟩
  · rw [List.length_cons, rest.count_eq]
    omega
  · apply List.nodup_cons.mpr
    exact ⟨fun again => (later offset again).1 rfl, rest.distinct⟩
  · simpa [passes.member] using fun other member => (later other member).2
  · rw [rest.enough_iff]
    omega
  · rw [rest.shown, passes.shown]
    simp [exhaustedEvents, Network.ipAt_of_block passes.block_eq,
      Network.name_of_block passes.block_eq]

theorem reserveAnonymous_run {allocation : Allocation} (valid : allocation.network.Valid)
    (count : Nat) : ∃ offsets after enough, HandsOut allocation count offsets after enough := by
  induction count generalizing allocation with
  | zero => exact ⟨_, _, _, handsOut_zero allocation⟩
  | succ count ih =>
    rcases reserveAnonymous_step valid count with ⟨left, run⟩ | ⟨offset, next, passes, run⟩
    · exact ⟨_, _, _, handsOut_none left run⟩
    · obtain ⟨offsets, after, enough, rest⟩ := ih passes.valid
      exact ⟨_, _, _, passes.handsOut run rest⟩

end AddressPool.Allocation
