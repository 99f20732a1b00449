import AddressPool.Proofs.Cli.JobOptions
import AddressPool.Proofs.Job.Phases

namespace AddressPool

inductive Cli.JobSource.Gives (files : String → FileText) : JobSource → Job → Prop where
  | given : Gives files (.given job) job
  | file (found : files path = .found text) (read : Job.read text = .ok job) :
      Gives files (.file path) job

namespace Job

open Allocation

def start (job : Job) (entropy : Generator) : Network :=
  .ofBlock job.network ((job.seed.map Generator.ofSeed).getD entropy)

def asked (job : Job) (start : Network) : List Ip :=
  job.statics ++ job.identifiers.map (mapped start)

def settled (job : Job) (entropy : Generator) : Allocation :=
  job.identifiers.foldl reserveIdentifier
    (job.statics.foldl reserveStatic (job.begin (job.start entropy).generator))

def left (job : Job) (start : Network) : Nat := (start.room (job.asked start)).card

def shortage (start : Network) : List Event :=
  [.notice (.exhausted start.name),
    .notice (.failed s!"{start.name.text} has no free addresses left")]

-- What is shown of a job in every display when it hands out these addresses.
def announced (job : Job) (start : Network) (anonymous : List Ip) : List Event :=
  .notice (.allocating start.name) :: staticEvents start job.statics ++
    job.identifiers.map (identifierEvent start) ++ anonymous.map anonymousEvent ++
    if job.count.toNat ≤ job.left start then [] else shortage start

def staticLine (display : Display) (start : Network) (earlier : List Ip) (ip : Ip) : String :=
  if start.Manages ip ∧ ip ∉ earlier then s!"static {ip.text}"
  else display.record .warn .program s!"Could not reserve {ip.text} in {start.name.text}"

def told (job : Job) (start : Network) (display : Display) (anonymous : List Ip) : List String :=
  display.record .info .program s!"Allocating from {start.name.text}" ::
    (job.statics.mapIdx fun place ip => staticLine display start (job.statics.take place) ip) ++
    job.identifiers.map (fun identifier => s!"{identifier} {(mapped start identifier).text}") ++
    anonymous.map (fun ip => s!"anonymous {ip.text}") ++
    if job.count.toNat ≤ job.left start then []
    else
      [display.record .warn .networks s!"No free addresses left in {start.name.text}",
        display.record .error .program s!"{start.name.text} has no free addresses left"]

theorem eventText_static (display : Display) (start : Network) (earlier : List Ip) (ip : Ip) :
    display.eventText (staticEvent start earlier ip) =
      some (staticLine display start earlier ip) := by
  unfold staticEvent staticLine
  split
  · rfl
  · exact Display.eventText_shown rfl display

theorem staticEvents_text (display : Display) (start : Network) (ips : List Ip) :
    (staticEvents start ips).filterMap display.eventText =
      ips.mapIdx fun place ip => staticLine display start (ips.take place) ip := by
  rw [staticEvents, List.mapIdx_eq_zipIdx_map, List.mapIdx_eq_zipIdx_map, List.filterMap_map,
    ← List.filterMap_eq_map']
  apply List.filterMap_congr
  intro entry _
  exact eventText_static display start (ips.take entry.2) entry.1

theorem announced_told (job : Job) (start : Network) (display : Display) (anonymous : List Ip) :
    (job.announced start anonymous).filterMap display.eventText =
      job.told start display anonymous := by
  have opening : display.eventText (.notice (.allocating start.name)) = some _ :=
    Display.eventText_shown rfl display
  have identifiers : (job.identifiers.map (identifierEvent start)).filterMap display.eventText =
      job.identifiers.map fun identifier => s!"{identifier} {(mapped start identifier).text}" :=
    display.filterMap_lines _ _
  have others : (anonymous.map anonymousEvent).filterMap display.eventText =
      anonymous.map fun ip => s!"anonymous {ip.text}" :=
    display.filterMap_lines _ _
  unfold announced told
  rw [List.filterMap_append, List.filterMap_append, List.filterMap_append,
    List.filterMap_cons_some opening, staticEvents_text, identifiers, others]
  congr 1
  split
  · rfl
  · rw [shortage, List.filterMap_cons_some (Display.eventText_shown rfl display),
      List.filterMap_cons_some (Display.eventText_shown rfl display)]
    rfl

theorem begin_shown (job : Job) (entropy : Generator) :
    (job.begin (job.start entropy).generator).shown =
      [.notice (.allocating (job.start entropy).name)] := by
  rw [begin, shown_say]
  rfl

theorem settled_run (job : Job) (entropy : Generator) :
    (job.settled entropy).shown = .notice (.allocating (job.start entropy).name) ::
        staticEvents (job.start entropy) job.statics ++
        job.identifiers.map (identifierEvent (job.start entropy)) ∧
      (job.settled entropy).network.Grants (job.start entropy) (job.asked (job.start entropy)) := by
  have opened : (job.begin (job.start entropy).generator).network.Grants (job.start entropy) [] :=
    .ofBlock _ _
  obtain ⟨placed, grants⟩ := reserveStatics_run opened job.statics
  obtain ⟨mapped, all⟩ := reserveIdentifiers_run grants job.identifiers
  refine ⟨?_, all⟩
  unfold settled
  rw [mapped, placed, begin_shown]
  rfl

theorem left_eq (job : Job) (entropy : Generator) :
    job.left (job.start entropy) = (job.settled entropy).network.spare.card := by
  rw [(job.settled_run entropy).2.spare_eq, left]

def summary (enough : Bool) (network : Network) : Notice :=
  if enough then .tally network.reserved.size network.name
  else .failed s!"{network.name.text} has no free addresses left"

theorem allocate_eq (job : Job) (entropy : Generator) :
    job.allocate entropy =
      let (last, enough) := (job.settled entropy).reserveAnonymous job.count.toNat
      ⟨(last.say [summary enough last.network]).events.toList, enough⟩ :=
  rfl

theorem summary_shown {last start : Network} (same : last.block = start.block) (enough : Bool) :
    exhaustedEvents start enough ++ [Event.notice (summary enough last)].filter Display.shows =
      if enough then [] else shortage start := by
  have name := Network.name_of_block same
  cases enough with
  | true => rfl
  | false =>
    unfold summary
    rw [name]
    rfl

section
variable {job : Job} {entropy : Generator} {offsets : List Nat} {last : Allocation} {enough : Bool}
  (hands : HandsOut (job.settled entropy) job.count.toNat offsets last enough)
include hands

theorem allocate_enough :
    (job.allocate entropy).succeeded = true ↔ job.count.toNat ≤ job.left (job.start entropy) := by
  rw [allocate_eq, hands.run, left_eq]
  exact hands.enough_iff

theorem allocate_shown :
    (job.allocate entropy).events.filter Display.shows =
      job.announced (job.start entropy) (offsets.map (job.start entropy).ipAt) := by
  obtain ⟨before, grants⟩ := job.settled_run entropy
  have closing := summary_shown (hands.block_eq.trans grants.block_eq) enough
  have fits : job.count.toNat ≤ job.left (job.start entropy) ↔ enough = true := by
    rw [left_eq, hands.enough_iff]
  rw [allocate_eq, hands.run]
  apply (last.shown_say [summary enough last.network]).trans
  rw [hands.shown, before]
  simp only [announced, fits, ← closing]
  simp [exhaustedEvents, Network.ipAt_of_block grants.block_eq,
    Network.name_of_block grants.block_eq]

theorem anonymous_leaves {ip : Ip} (member : ip ∈ offsets.map (job.start entropy).ipAt) :
    (job.start entropy).Leaves (job.asked (job.start entropy)) ip := by
  obtain ⟨offset, handed, rfl⟩ := List.mem_map.mp member
  exact ((job.settled_run entropy).2.leaves (hands.spare offset handed)).2

theorem anonymous_distinct : (offsets.map (job.start entropy).ipAt).Nodup := by
  apply hands.distinct.map_on
  intro a memberA b memberB same
  have leaves := fun offset handed =>
    (job.settled_run entropy).2.leaves (hands.spare offset handed)
  exact Network.ipAt_injective (leaves a memberA).1 (leaves b memberB).1 same

end

-- What comes of a job, with the answer it gets in a display: what is put out, in its order, and
-- how the run ends.
structure Follows (job : Job) (start settled : Network) (anonymous : List Ip)
    (display : Display) (answer : String × Bool) : Prop where
  opened : Network.create job.network.text start.generator = (.ok start, [start.opened])
  printed : ∃ lines, answer.1 = Text.unlines lines ∧
    display.Amid (job.told start display anonymous) lines
  quiet : display.verbose = false → display.trace = false →
    answer.1 = Text.unlines (job.told start display anonymous)
  spare_eq : settled.spare = start.room (job.asked start)
  counted : job.left start + settled.poolUsed = settled.poolSize
  count_eq : anonymous.length = min job.count.toNat (job.left start)
  distinct : anonymous.Nodup
  fresh : ∀ ip ∈ anonymous, ip ∉ job.statics ∧
    ∀ identifier ∈ job.identifiers, ip ≠ mapped start identifier
  inside : ∀ ip ∈ anonymous, start.contains (.ofIp ip) = true
  inner : 2 < start.size → ∀ ip ∈ anonymous, ip ≠ start.first ∧ ip ≠ start.last
  succeeded_iff : answer.2 = true ↔ job.count.toNat ≤ job.left start

theorem allocate_outcome (job : Job) (entropy : Generator) :
    ∃ anonymous, ∀ display (transcript : Transcript),
      transcript.events.filter Display.shows = (job.allocate entropy).events.filter Display.shows →
      transcript.succeeded = (job.allocate entropy).succeeded →
      job.Follows (job.start entropy) (job.settled entropy).network anonymous display
        (display.output transcript, transcript.succeeded) := by
  have grants := (job.settled_run entropy).2
  obtain ⟨offsets, last, enough, hands⟩ := reserveAnonymous_run grants.valid job.count.toNat
  refine ⟨offsets.map (job.start entropy).ipAt, ?_⟩
  intro display transcript alike ended
  have told : (transcript.events.filter Display.shows).filterMap display.eventText =
      job.told (job.start entropy) display (offsets.map (job.start entropy).ipAt) := by
    rw [alike, allocate_shown hands, announced_told]
  constructor
  case opened => exact Network.create_text _ _
  case printed =>
    have amid := display.amid_shown transcript.events
    rw [told] at amid
    exact ⟨_, display.output_eq transcript, amid⟩
  case quiet =>
    intro brief untraced
    rw [Display.output_quiet brief untraced, told]
  case spare_eq => exact grants.spare_eq
  case counted =>
    rw [left_eq]
    exact Network.card_spare grants.valid
  case count_eq =>
    rw [List.length_map, left_eq]
    exact hands.count_eq
  case distinct => exact anonymous_distinct hands
  case fresh =>
    intro ip member
    have fresh := (anonymous_leaves hands member).2.1
    simpa [asked, not_or, eq_comm] using fresh
  case inside =>
    intro ip member
    exact (anonymous_leaves hands member).1.contains
  case inner =>
    intro large ip member
    exact (anonymous_leaves hands member).2.2 large
  case succeeded_iff =>
    rw [ended]
    exact allocate_enough hands

theorem run_alike {files : String → Cli.FileText} {source : Cli.JobSource} {job : Job}
    (gives : source.Gives files job) (entropy : Generator) :
    (Cli.Command.run files entropy (.allocate source)).events.filter Display.shows =
        (job.allocate entropy).events.filter Display.shows ∧
      (Cli.Command.run files entropy (.allocate source)).succeeded =
        (job.allocate entropy).succeeded := by
  cases gives with
  | given => exact ⟨rfl, rfl⟩
  | @file path text job found read =>
    simp only [Cli.Command.run, Cli.allocateFile, found, read]
    exact ⟨rfl, trivial⟩

theorem allocate_follows (files : String → Cli.FileText) (entropy : Generator)
    (trace color : Bool) :
    (∀ job seed, job.seed = some seed → Cli.Invocation.read (Cli.jobLine job seed) =
        some (.run false (.allocate (.given job)))) ∧
      ∀ arguments verbose source job,
        Cli.Invocation.read arguments = some (.run verbose (.allocate source)) →
        source.Gives files job → ∃ anonymous answer,
          Cli.respond files entropy trace color arguments = some answer ∧
          job.Follows (job.start entropy) (job.settled entropy).network anonymous
            ⟨verbose, trace, color⟩ answer := by
  refine ⟨fun _ _ => Cli.read_jobLine, ?_⟩
  intro arguments verbose source job asked gives
  obtain ⟨anonymous, follows⟩ := job.allocate_outcome entropy
  obtain ⟨alike, ended⟩ := run_alike gives entropy
  exact ⟨anonymous, _, Cli.respond_run asked, follows _ _ alike ended⟩

-- Eight addresses. One of the six in between is granted to a number and one to an identifier, so
-- there is room for four of the five that anybody may have.
theorem allocate_follows_scarce :
    let job : Job := ⟨⟨Ip.wrap .v4 0x0a000001, 29, by decide⟩,
      [Ip.wrap .v4 0x0a000005, Ip.wrap .v4 0x0a000005, Ip.wrap .v4 0x0a090909], ["client-a"], 5,
      some 7⟩
    let entropy := Generator.ofSeed 0
    let files := fun _ => Cli.FileText.missing
    Cli.Invocation.read (Cli.jobLine job 7) = some (.run false (.allocate (.given job))) ∧
      (Cli.JobSource.given job).Gives files job ∧ job.left (job.start entropy) = 4 ∧
      ∃ anonymous answer, Cli.respond files entropy false false (Cli.jobLine job 7) = some answer ∧
        job.Follows (job.start entropy) (job.settled entropy).network anonymous
          ⟨false, false, false⟩ answer := by
  intro job entropy files
  obtain ⟨readable, follows⟩ := allocate_follows files entropy false false
  have read := readable job 7 rfl
  exact ⟨read, .given, by decide +kernel, follows _ _ _ _ read .given⟩

end Job
end AddressPool
