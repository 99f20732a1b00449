import AddressPool.Block
import AddressPool.Log
import AddressPool.Network.Session

namespace AddressPool

structure Job where
  network : Block
  statics : List Ip
  identifiers : List String
  count : UInt64
  seed : Option UInt64
deriving DecidableEq

structure Allocation where
  network : Network
  events : Array Event

namespace Allocation

def say (allocation : Allocation) (notices : List Notice) : Allocation :=
  { allocation with events := allocation.events ++ (notices.map Event.notice).toArray }

def print (allocation : Allocation) (text : String) : Allocation :=
  { allocation with events := allocation.events.push (.line text) }

def after {α : Type} (allocation : Allocation) (step : Step α) : Allocation :=
  { allocation with network := step.network }.say step.log

def reserveStatic (allocation : Allocation) (ip : Ip) : Allocation :=
  let step := allocation.network.reserve (.ofIp ip)
  let next := allocation.after step
  if step.value then next.print s!"static {ip.text}"
  else next.say [.refused ip next.network.name]

def reserveIdentifier (allocation : Allocation) (identifier : String) : Allocation :=
  let step := allocation.network.reserveMapped (Text.utf8 identifier.toList)
  (allocation.after step).print s!"{identifier} {step.value.text}"

def reserveAnonymous : (count : Nat) → Allocation → Allocation × Bool
  | 0, allocation => (allocation, true)
  | count + 1, allocation =>
    let step := allocation.network.reserveAny
    let next := allocation.after step
    match step.value with
    | none => (next, false)
    | some ip => reserveAnonymous count (next.print s!"anonymous {ip.text}")

end Allocation

namespace Job

def begin (job : Job) (generator : Generator) : Allocation :=
  let network := Network.ofBlock job.network generator
  Allocation.say ⟨network, #[]⟩ [network.opened, .allocating network.name]

-- Static addresses go first, so that nothing else can take them. Then identifiers get theirs,
-- shared or not, and what is left is for everybody.
def allocate (job : Job) (entropy : Generator) : Transcript :=
  let generator := (job.seed.map Generator.ofSeed).getD entropy
  let placed := job.statics.foldl Allocation.reserveStatic (job.begin generator)
  let mapped := job.identifiers.foldl Allocation.reserveIdentifier placed
  let (last, complete) := Allocation.reserveAnonymous job.count.toNat mapped
  let name := last.network.name
  let summary : Notice :=
    if complete then .tally last.network.reserved.size name
    else .failed s!"{name.text} has no free addresses left"
  ⟨(last.say [summary]).events.toList, complete⟩

end Job
end AddressPool
