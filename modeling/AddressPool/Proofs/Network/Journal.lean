import AddressPool.Proofs.Log
import AddressPool.Proofs.Network.Reached
import Mathlib.Data.List.Chain

namespace AddressPool

def Request.isQuery : Request → Bool
  | .isReserved _ | .contains _ | .mapped _ | .isReservedId _ | .reservedCount => true
  | .reset _ | .reserveAny | .reserve _ | .release _ | .reserveMapped _ => false

namespace Network

def said (log : List Notice) : List String :=
  (log.filter fun notice => notice.source = .networks).map Notice.message

-- What networks have said in a session, from its beginning or from the last time on that the
-- network has started over.
def journal (network : Network) (told : List String) : List Request → List String
  | [] => told
  | request :: requests =>
    let step := network.perform request
    step.network.journal (if step.value = .done then [] else told ++ said step.log) requests

def verb : Bool → String
  | true => "Reserved"
  | false => "Released"

def remark (network : Network) (reserved : Bool) (ip : Ip) : String :=
  s!"{verb reserved} {ip.text} in {network.text}"

def remarksOn (network : Network) (ip : Ip) (messages : List String) : List String :=
  messages.filter fun message =>
    message = network.remark true ip ∨ message = network.remark false ip

-- The messages tell exactly how the network came to hold what it holds, and what changes nothing
-- is not mistaken for a change.
structure Faithful (network : Network) (messages : List String) : Prop where
  balance : ∀ ip port, messages.count (network.remark true ip) =
    messages.count (network.remark false ip) +
      if network.isReserved (.ip ip port) = true then 1 else 0
  alternates : ∀ ip, (network.remarksOn ip messages).IsChain (· ≠ ·)
  begins : ∀ ip message, (network.remarksOn ip messages).head? = some message →
    message = network.remark true ip
  named : ∀ reserved, ∀ message ∈ messages, Opens (verb reserved) message →
    ∃ ip, ip.version = network.block.version ∧ message = network.remark reserved ip
  total : messages.countP (Opens (verb true) ·) =
    messages.countP (Opens (verb false) ·) + network.reserved.size
  noneLeft : (network.perform .reserveAny).value = .noneLeft →
    ∃ notice, (network.perform .reserveAny).log = [notice] ∧ notice.source = .networks ∧
      notice.level = .warn ∧ notice.message = s!"No free addresses left in {network.text}"
  asides : ∀ request, request.isQuery = true ∨ (network.perform request).value = .flag false ∨
      (∃ fault, (network.perform request).value = .fault fault) →
    ∀ notice ∈ (network.perform request).log, ∀ phrase ∈ announcements,
      ¬Opens phrase notice.message

theorem verb_announced (reserved : Bool) : verb reserved ∈ announcements := by
  cases reserved <;> decide

theorem remark_opens {network : Network} {reserved other : Bool} {ip : Ip} :
    Opens (verb other) (network.remark reserved ip) ↔ other = reserved := by
  cases reserved <;> cases other <;> simp [Opens, remark, verb]

theorem remark_inj {network : Network} {reserved other : Bool} {ip host : Ip} :
    network.remark reserved ip = network.remark other host ↔ reserved = other ∧ ip = host := by
  constructor
  · intro same
    have opens : Opens (verb reserved) (network.remark reserved ip) := remark_opens.mpr rfl
    rw [same] at opens
    cases remark_opens.mp opens
    refine ⟨rfl, Ip.text_injective ?_⟩
    simpa [remark, ← String.toList_inj] using same
  · intro same
    rw [same.1, same.2]

theorem remarksOn_append (network : Network) (ip : Ip) (earlier later : List String) :
    network.remarksOn ip (earlier ++ later) =
      network.remarksOn ip earlier ++ network.remarksOn ip later :=
  List.filter_append _ _

theorem remarksOn_remark (network : Network) (ip host : Ip) (reserved : Bool) :
    network.remarksOn ip [network.remark reserved host] =
      if ip = host then [network.remark reserved host] else [] := by
  cases reserved <;> simp [remarksOn, List.filter_singleton, remark_inj, eq_comm]

inductive Turned (text : Bool → String) : List String → Bool → Prop where
  | start : Turned text [] false
  | turn {remarks : List String} {state : Bool} (turned : Turned text remarks state) :
      Turned text (remarks ++ [text (!state)]) !state

section
variable {text : Bool → String} {remarks : List String} {state : Bool}

theorem Turned.count (differ : text true ≠ text false) (turned : Turned text remarks state) :
    remarks.count (text true) = remarks.count (text false) + if state = true then 1 else 0 := by
  induction turned with
  | start => rfl
  | @turn remarks state turned ih => cases state <;> simp_all [List.count_append, Ne.symm differ]

theorem Turned.last (turned : Turned text remarks state) {message : String}
    (last : remarks.getLast? = some message) : message = text state := by
  cases turned with
  | start => cases last
  | turn turned => simpa [eq_comm] using last

theorem Turned.alternates (differ : text true ≠ text false) (turned : Turned text remarks state) :
    remarks.IsChain (· ≠ ·) := by
  induction turned with
  | start => exact .nil
  | @turn remarks state turned ih =>
    refine List.isChain_append.mpr ⟨ih, .singleton _, ?_⟩
    intro message last next first
    cases turned.last last
    cases first
    cases state <;> simp [differ, differ.symm]

theorem Turned.begins (turned : Turned text remarks state) {message : String}
    (first : remarks.head? = some message) : message = text true := by
  induction turned with
  | start => cases first
  | @turn remarks state turned ih =>
    cases turned with
    | start => simpa [eq_comm] using first
    | turn turned => exact ih (by simpa using first)

end

-- What a journal is worth on the way: every address is where its last remark has turned it.
structure Tells (network : Network) (messages : List String) : Prop where
  turned : ∀ ip, Turned (network.remark · ip) (network.remarksOn ip messages)
    (network.isReserved (.ofIp ip))
  named : ∀ reserved, ∀ message ∈ messages, Opens (verb reserved) message →
    ∃ ip, ip.version = network.block.version ∧ message = network.remark reserved ip
  total : messages.countP (Opens (verb true) ·) =
    messages.countP (Opens (verb false) ·) + network.reserved.size

theorem Tells.ofBlock (block : Block) (generator : Generator) :
    (ofBlock block generator).Tells [] where
  turned := by
    intro ip
    have free : (Network.ofBlock block generator).isReserved (.ofIp ip) = false := by
      rw [Bool.eq_false_iff, ne_eq, isReserved_iff]
      intro known
      obtain ⟨offset, -, held⟩ := known
      exact Std.ExtTreeSet.not_mem_empty held
    rw [free]
    exact .start
  named := by simp
  total := (Std.ExtTreeSet.size_empty : (∅ : Std.ExtTreeSet Nat).size = 0).symm

theorem offset?_iff_ipAt {network : Network} {offset : Nat} (managed : offset < network.size)
    {ip : Ip} : network.offset? (.ofIp ip) = some offset ↔ ip = network.ipAt offset := by
  constructor
  · intro found
    obtain ⟨host, same, manages, rfl⟩ := offset?_eq_some_iff.mp found
    cases same
    exact manages.ipAt.symm
  · intro same
    subst same
    exact offset?_ipAt managed 0

def turn (network : Network) (reserved : Bool) (offset : Nat) : Network :=
  match reserved with
  | true => network.hold offset
  | false => network.free offset

theorem turn_remark (network : Network) (reserved : Bool) (offset : Nat) :
    (network.turn reserved offset).remark = network.remark := by
  cases reserved <;> rfl

theorem mem_turn {network : Network} {reserved : Bool} {offset other : Nat} :
    other ∈ (network.turn reserved offset).reserved ↔
      if other = offset then reserved = true else other ∈ network.reserved := by
  cases reserved with
  | true => rw [turn, mem_hold]; split <;> simp_all
  | false => rw [turn, mem_free]; split <;> simp_all

theorem isReserved_ipAt {network : Network} {offset : Nat} (managed : offset < network.size) :
    network.isReserved (.ofIp (network.ipAt offset)) = network.reserved.contains offset := by
  rw [isReserved, Address.ofIp, offset?_ipAt managed]
  rfl

theorem isReserved_turn {network : Network} {offset : Nat} (managed : offset < network.size)
    (reserved : Bool) (ip : Ip) : (network.turn reserved offset).isReserved (.ofIp ip) =
      if ip = network.ipAt offset then reserved else network.isReserved (.ofIp ip) := by
  have place : (network.turn reserved offset).offset? = network.offset? := by
    cases reserved <;> rfl
  rw [Bool.eq_iff_iff, isReserved_iff, place]
  by_cases here : ip = network.ipAt offset
  · have found := (offset?_iff_ipAt managed).mpr here
    rw [if_pos here, found]
    simp [mem_turn]
  · rw [if_neg here, isReserved_iff]
    refine exists_congr fun other => and_congr_right fun found => ?_
    have differ : other ≠ offset := by
      intro same
      subst same
      exact here ((offset?_iff_ipAt managed).mp found)
    rw [mem_turn, if_neg differ]

theorem size_turn {network : Network} {reserved : Bool} {offset : Nat}
    (turns : network.reserved.contains offset = !reserved) :
    (network.turn reserved offset).reserved.size + (!reserved).toNat =
      network.reserved.size + reserved.toNat := by
  cases reserved with
  | true => simp [turn, hold, Std.ExtTreeSet.size_insert, turns]
  | false =>
    have held : 0 < network.reserved.size := by
      rw [← card_taken]
      exact Finset.card_pos.mpr ⟨offset, mem_taken.mpr (Std.ExtTreeSet.contains_iff_mem.mp turns)⟩
    simp only [turn, free, Std.ExtTreeSet.size_erase, turns, Bool.not_false, if_true,
      Bool.toNat_true, Bool.toNat_false]
    omega

-- The address in question is turned once more. What is said of it does not concern the others.
theorem remarksOn_turn {network : Network} {messages : List String} {ip : Ip}
    (before : Turned (network.remark · ip) (network.remarksOn ip messages)
      (network.isReserved (.ofIp ip)))
    {reserved : Bool} {offset : Nat} (managed : offset < network.size)
    (turns : network.reserved.contains offset = !reserved) :
    Turned (network.remark · ip)
      (network.remarksOn ip (messages ++ [network.remark reserved (network.ipAt offset)]))
      ((network.turn reserved offset).isReserved (.ofIp ip)) := by
  rw [remarksOn_append, remarksOn_remark, isReserved_turn managed]
  by_cases here : ip = network.ipAt offset
  · subst here
    rw [isReserved_ipAt managed, turns] at before
    rw [if_pos rfl, if_pos rfl]
    simpa using before.turn
  · rw [if_neg here, if_neg here, List.append_nil]
    exact before

theorem Tells.turn {network : Network} {messages : List String} (tells : network.Tells messages)
    {reserved : Bool} {offset : Nat} (managed : offset < network.size)
    (turns : network.reserved.contains offset = !reserved) :
    (network.turn reserved offset).Tells
      (messages ++ [network.remark reserved (network.ipAt offset)]) := by
  have block : (network.turn reserved offset).block = network.block := by cases reserved <;> rfl
  refine ⟨?_, ?_, ?_⟩
  · intro ip
    rw [remarksOn, turn_remark]
    exact remarksOn_turn (tells.turned ip) managed turns
  · intro other message member opens
    rw [block, turn_remark]
    rcases List.mem_append.mp member with earlier | last
    · exact tells.named other message earlier opens
    · cases List.mem_singleton.mp last
      cases remark_opens.mp opens
      exact ⟨network.ipAt offset, rfl, rfl⟩
  · have sizes := size_turn turns
    have before := tells.total
    simp only [List.countP_append, List.countP_singleton, remark_opens]
    cases reserved <;> simp at sizes ⊢ <;> omega

theorem Tells.drawn {network : Network} {messages : List String} (tells : network.Tells messages)
    (generator : Generator) : { network with generator }.Tells messages :=
  ⟨tells.turned, tells.named, tells.total⟩

theorem Tells.hold {network : Network} {messages : List String} (tells : network.Tells messages)
    {offset : Nat} (managed : offset < network.size) (free : offset ∉ network.reserved) :
    (network.hold offset).Tells
      (messages ++ said [.reserved (network.ipAt offset) network.name]) := by
  have turns : network.reserved.contains offset = !true := by
    simpa [← Std.ExtTreeSet.contains_iff_mem] using free
  exact tells.turn managed turns

theorem Tells.free {network : Network} {messages : List String} (tells : network.Tells messages)
    {offset : Nat} (managed : offset < network.size) (held : offset ∈ network.reserved) :
    (network.free offset).Tells
      (messages ++ said [.released (network.ipAt offset) network.name]) := by
  have turns : network.reserved.contains offset = !false :=
    Std.ExtTreeSet.contains_iff_mem.mpr held
  exact tells.turn managed turns

theorem said_aside {log : List Notice} (asides : ∀ notice ∈ log, notice.isAside = true) :
    ∀ message ∈ said log, ∀ phrase ∈ announcements, ¬Opens phrase message := by
  intro message member phrase announced
  obtain ⟨notice, kept, rfl⟩ := List.mem_map.mp member
  exact aside_opens (asides notice (List.mem_filter.mp kept).1) announced

theorem Tells.pass {network : Network} {messages : List String} (tells : network.Tells messages)
    {log : List Notice} (asides : ∀ notice ∈ log, notice.isAside = true) :
    network.Tells (messages ++ said log) := by
  have silent : ∀ message ∈ said log, ∀ reserved, ¬Opens (verb reserved) message :=
    fun message member reserved => said_aside asides message member _ (verb_announced reserved)
  refine ⟨?_, ?_, ?_⟩
  · intro ip
    have none : network.remarksOn ip (said log) = [] := by
      apply List.filter_eq_nil_iff.mpr
      intro message member
      have differ : ∀ reserved, message ≠ network.remark reserved ip := by
        intro reserved same
        subst same
        exact silent _ member reserved (remark_opens.mpr rfl)
      simp [differ]
    rw [remarksOn_append, none, List.append_nil]
    exact tells.turned ip
  · intro reserved message member opens
    rcases List.mem_append.mp member with earlier | later
    · exact tells.named reserved message earlier opens
    · exact absurd opens (silent message later reserved)
  · have none : ∀ reserved, (said log).countP (Opens (verb reserved) ·) = 0 := by
      intro reserved
      simpa using fun message member => silent message member reserved
    rw [List.countP_append, List.countP_append, none, none, Nat.add_zero, Nat.add_zero]
    exact tells.total

theorem outcome_tells {network : Network} {request : Request} {step : Step Reply}
    {messages : List String} (tells : network.Tells messages)
    (outcome : Outcome network request step) :
    step.network.Tells (if step.value = .done then [] else messages ++ said step.log) := by
  cases outcome with
  | reset read => exact .ofBlock _ _
  | resetRefused refused => exact tells.pass fun _ => readLog_aside
  | handedOut offset generator member =>
    obtain ⟨managed, free, -⟩ := mem_spare.mp member
    exact (tells.drawn generator).hold managed free
  | reserved found free => exact tells.hold (offset?_lt found) free
  | released found held => exact tells.free (offset?_lt found) held
  | reservedMapped free => exact tells.hold (network.mappedOffset_lt _) free
  | noneLeft | reserveOutside | mappedTaken => exact tells.pass (by simp [Notice.isAside])
  | reserveTaken | releaseRefused | isReserved | contains | mapped | isReservedId | reservedCount =>
    exact tells.pass (by simp)

theorem journal_tells {network : Network} (valid : network.Valid) {told : List String}
    (tells : network.Tells told) (requests : List Request) :
    (network.serve requests).network.Tells (network.journal told requests) := by
  induction requests generalizing network told with
  | nil => exact tells
  | cons request requests ih =>
    exact ih (perform_valid valid request) (outcome_tells tells (perform_outcome valid request))

theorem outcome_asides {network : Network} {request : Request} {step : Step Reply}
    (outcome : Outcome network request step)
    (idle : request.isQuery = true ∨ step.value = .flag false ∨
      ∃ fault, step.value = .fault fault) :
    ∀ notice ∈ step.log, notice.isAside = true := by
  cases outcome with
  | resetRefused refused => exact fun _ => readLog_aside
  | noneLeft | reserveOutside | mappedTaken => simp [Notice.isAside]
  | reserveTaken | releaseRefused | isReserved | contains | mapped | isReservedId | reservedCount =>
    simp
  | reset | handedOut | reserved | released | reservedMapped => simp [Request.isQuery] at idle

theorem Tells.faithful {network : Network} (valid : network.Valid) {messages : List String}
    (tells : network.Tells messages) : network.Faithful messages where
  balance := by
    intro ip port
    have counted := (tells.turned ip).count (by simp [remark_inj])
    have kept : ∀ reserved, (network.remarksOn ip messages).count (network.remark reserved ip) =
        messages.count (network.remark reserved ip) := by
      intro reserved
      apply List.count_filter
      cases reserved <;> simp
    rw [kept, kept] at counted
    exact counted
  alternates := fun ip => (tells.turned ip).alternates (by simp [remark_inj])
  begins := fun ip _ => (tells.turned ip).begins
  named := tells.named
  total := tells.total
  noneLeft := by
    intro answer
    generalize performed : network.perform .reserveAny = step at answer ⊢
    cases performed ▸ perform_outcome valid .reserveAny with
    | handedOut => cases answer
    | noneLeft none => exact ⟨_, rfl, rfl, rfl, rfl⟩
  asides := by
    intro request idle notice said phrase announced
    exact aside_opens (outcome_asides (perform_outcome valid request) idle notice said) announced

theorem journal_faithful {start : Network} (begun : Begun start) (requests : List Request) :
    (start.serve requests).network.Faithful (start.journal [] requests) := by
  have tells : start.Tells [] := by
    rw [begun.ofBlock_eq]
    exact .ofBlock _ _
  exact (journal_tells begun.valid tells requests).faithful (serve_valid begun.valid requests)

theorem journal_faithful_reset :
    let start := ofBlock ⟨Ip.wrap .v4 0x0a000007, 30, by decide⟩ (.ofSeed 7)
    let requests : List Request := [.reserveAny, .reset "10.0.0.8/31", .reset "10.0.0.8",
      .reserve (.ip (Ip.wrap .v4 0x0a000009) 80), .reserveMapped [0x61], .reserveAny, .reserveAny,
      .release (.ip (Ip.wrap .v4 0x0a000009) 0)]
    (create "10.0.0.7/30" (.ofSeed 7)).1 = .ok start ∧
    (start.serve requests).network.Faithful (start.journal [] requests) :=
  ⟨rfl, journal_faithful (.created (show (create "10.0.0.7/30" (.ofSeed 7)).1 = .ok _ from rfl)) _⟩

example :
    (ofBlock ⟨Ip.wrap .v4 0x0a000007, 30, by decide⟩ (.ofSeed 7)).journal []
      [.reserve (.ip (Ip.wrap .v4 0x0a000005) 80), .release (.ip (Ip.wrap .v4 0x0a000005) 0)] =
    ["Reserved 10.0.0.5 in 10.0.0.4/30", "Released 10.0.0.5 in 10.0.0.4/30"] := by
  rfl

end Network
end AddressPool
