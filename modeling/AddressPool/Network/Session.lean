import AddressPool.Address.Parser
import AddressPool.Block
import AddressPool.Digest
import AddressPool.Log
import AddressPool.Network.Basic

namespace AddressPool

inductive NetspecFault where
  | address (fault : ArgumentFault)
  | noNetwork (netspec : String) (family : Family)
  | maskTooLong (netspec : String)
deriving DecidableEq

namespace NetspecFault

def reason : NetspecFault → String
  | address fault => fault.reason
  | noNetwork _ family => s!"{family.label} addresses cannot form a network"
  | maskTooLong _ => "invalid IP prefix length"

def message (fault : NetspecFault) : String :=
  match fault with
  | address fault => fault.message
  | noNetwork netspec _ | maskTooLong netspec =>
    s!"Invalid netspec {Text.quoted netspec}: {fault.reason}"

end NetspecFault

namespace Block

-- A netspec is an address text with a mask. Unlike configuration it is read strictly.
def ofNetspec (netspec : String) : Except NetspecFault Block :=
  match AddressText.read netspec false 0 with
  | .error fault => .error (.address fault)
  | .ok (.ip host (some mask) _) =>
    match ofHost? host mask with
    | some block => .ok block
    | none => .error (.maskTooLong netspec)
  | .ok said => .error (.noNetwork netspec said.family)

def isNetspec (netspec : String) : Bool := (ofNetspec netspec).isOk

end Block

structure Step (α : Type) where
  value : α
  network : Network
  log : List Notice

namespace Network

def hold (network : Network) (offset : Nat) : Network :=
  { network with reserved := network.reserved.insert offset }

def free (network : Network) (offset : Nat) : Network :=
  { network with reserved := network.reserved.erase offset }

def reserve (network : Network) (address : Address) : Step Bool :=
  match network.offset? address with
  | none => ⟨false, network, [.outside address network.name]⟩
  | some offset =>
    if network.reserved.contains offset then ⟨false, network, []⟩
    else ⟨true, network.hold offset, [.reserved (network.ipAt offset) network.name]⟩

def release (network : Network) (address : Address) : Step Bool :=
  match network.offset? address with
  | none => ⟨false, network, []⟩
  | some offset =>
    if network.reserved.contains offset then
      ⟨true, network.free offset, [.released (network.ipAt offset) network.name]⟩
    else ⟨false, network, []⟩

def isReserved (network : Network) (address : Address) : Bool :=
  (network.offset? address).any network.reserved.contains

def reserveAny (network : Network) : Step (Option Ip) :=
  if network.isExhausted then ⟨none, network, [.exhausted network.name]⟩
  else
    let (start, generator) := network.generator.below network.size
    let drawn := { network with generator }
    match network.probe network.probeSteps start with
    | none => ⟨none, drawn, []⟩
    | some offset =>
      ⟨some (network.ipAt offset), drawn.hold offset,
        [.reserved (network.ipAt offset) network.name]⟩

-- Identifiers are spread over a network by their digests. Two of them may meet.
def mappedOffset (network : Network) (identifier : Bytes) : Nat :=
  Bytes.ofBigEndian ((Sha256.digest identifier).take 8) % network.size

def mapped (network : Network) (identifier : Bytes) : Ip :=
  network.ipAt (network.mappedOffset identifier)

-- Reserves the address of an identifier, which it gets even if another one holds it already.
def reserveMapped (network : Network) (identifier : Bytes) : Step Ip :=
  let ip := network.mapped identifier
  let step := network.reserve (.ofIp ip)
  ⟨ip, step.network, if step.value then step.log else step.log ++ [.alreadyReserved ip]⟩

def isReservedId (network : Network) (identifier : Bytes) : Bool :=
  network.isReserved (.ofIp (network.mapped identifier))

-- Networks begin with a netspec, and a session with one serves requests in their order. Each
-- request leaves behind a reply, the network as it is then, and remarks.

def opened (network : Network) : Notice := .managing network.name network.size

def create (netspec : String) (generator : Generator) :
    Except NetspecFault Network × List Notice :=
  match Block.ofNetspec netspec with
  | .error fault => (.error fault, AddressText.readLog netspec)
  | .ok block => let network := ofBlock block generator; (.ok network, [network.opened])

def reset (network : Network) (netspec : String) : Step (Except NetspecFault Unit) :=
  match Block.ofNetspec netspec with
  | .error fault => ⟨.error fault, network, AddressText.readLog netspec⟩
  | .ok block =>
    let network := ofBlock block network.generator
    ⟨.ok (), network, [.resetTo network.name]⟩

end Network

inductive Request where
  | reset (netspec : String)
  | reserveAny
  | reserve (address : Address)
  | release (address : Address)
  | isReserved (address : Address)
  | contains (address : Address)
  | mapped (identifier : Bytes)
  | reserveMapped (identifier : Bytes)
  | isReservedId (identifier : Bytes)
  | reservedCount
deriving DecidableEq

inductive Reply where
  | done
  | fault (fault : NetspecFault)
  | flag (value : Bool)
  | count (value : Nat)
  | address (ip : Ip)
  | noneLeft
deriving DecidableEq

namespace Network

def perform (network : Network) : Request → Step Reply
  | .reset netspec =>
    let step := network.reset netspec
    match step.value with
    | .ok () => ⟨.done, step.network, step.log⟩
    | .error fault => ⟨.fault fault, step.network, step.log⟩
  | .reserveAny =>
    let step := network.reserveAny
    match step.value with
    | some ip => ⟨.address ip, step.network, step.log⟩
    | none => ⟨.noneLeft, step.network, step.log⟩
  | .reserve address =>
    let step := network.reserve address
    ⟨.flag step.value, step.network, step.log⟩
  | .release address =>
    let step := network.release address
    ⟨.flag step.value, step.network, step.log⟩
  | .isReserved address => ⟨.flag (network.isReserved address), network, []⟩
  | .contains address => ⟨.flag (network.contains address), network, []⟩
  | .mapped identifier => ⟨.address (network.mapped identifier), network, []⟩
  | .reserveMapped identifier =>
    let step := network.reserveMapped identifier
    ⟨.address step.value, step.network, step.log⟩
  | .isReservedId identifier => ⟨.flag (network.isReservedId identifier), network, []⟩
  | .reservedCount => ⟨.count network.reserved.size, network, []⟩

def serve (network : Network) : List Request → Step (List Reply)
  | [] => ⟨[], network, []⟩
  | request :: requests =>
    let step := network.perform request
    let rest := step.network.serve requests
    ⟨step.value :: rest.value, rest.network, step.log ++ rest.log⟩

end Network
end AddressPool
