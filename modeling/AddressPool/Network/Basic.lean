import AddressPool.Address.Basic
import AddressPool.Block
import AddressPool.Random
import Std.Data.ExtTreeSet

namespace AddressPool

-- A network together with what is reserved in it. Reservations are kept as distances from the
-- first address, so a network can be renamed or moved without touching them.
structure Network where
  block : Block
  reserved : Std.ExtTreeSet Nat
  generator : Generator

namespace Network

def ofBlock (block : Block) (generator : Generator) : Network := ⟨block, ∅, generator⟩

def fresh (network : Network) : Network := ofBlock network.block network.generator

def name (network : Network) : Block := network.block.truncated

def text (network : Network) : String := network.name.text

def debug (network : Network) : String :=
  s!"Network \x7b netspec: {Text.quoted network.text}, reserved: {network.reserved.size} \x7d"

-- How many addresses can be managed. Wide networks are managed from their first address on,
-- as far as 64 bits can count.
def size (network : Network) : Nat :=
  if 64 ≤ network.block.hostBits then 1 <<< 64 - 1 else 1 <<< network.block.hostBits

def ipAt (network : Network) (offset : Nat) : Ip := network.block.ipAt (network.block.base + offset)

def first (network : Network) : Ip := network.block.ipAt network.block.base

def last (network : Network) : Ip := network.block.ipAt network.block.last

-- The host that the network was written with, if it is neither the first nor the last
-- address, or else the second address, which networks of one or two do not spare.
def gateway (network : Network) : Ip :=
  let host := network.block.host
  if host.value ≠ network.block.base ∧ host.value ≠ network.block.last then host
  else if 2 < network.size then network.ipAt 1
  else network.first

def contains (network : Network) (address : Address) : Bool :=
  address.host?.any network.block.contains

def offset? (network : Network) (address : Address) : Option Nat := do
  let ip ← address.host?.filter network.block.contains
  let offset := ip.value - network.block.base
  if offset < network.size then some offset else none

protected def compare (a b : Network) : Ordering := Block.compare a.block b.block

instance : Ord Network := ⟨Network.compare⟩

def fingerprint (network : Network) : UInt64 :=
  let version := Fingerprint.ofWord (Family.ip network.block.version).tag.toUInt64
  let base := Fingerprint.addBytes version (Bytes.littleEndian 16 network.block.base)
  Fingerprint.add base (UInt64.ofNat network.block.maskSize)

-- The pool of a network: the addresses that may be handed out to whoever asks for any address.
-- The first and the last address of a network are edges, handed out on request only, unless
-- the network has no other addresses.

def isEdge (network : Network) (offset : Nat) : Bool :=
  2 < network.size && (offset == 0 || offset == network.block.hostMask)

def isFree (network : Network) (offset : Nat) : Bool :=
  !network.isEdge offset && !network.reserved.contains offset

def lastOffset? (network : Network) : Option Nat :=
  if network.block.hostMask < network.size then some network.block.hostMask else none

def edges (network : Network) : List Nat :=
  if network.size ≤ 2 then [] else 0 :: network.lastOffset?.toList

def poolSize (network : Network) : Nat := network.size - network.edges.length

def poolUsed (network : Network) : Nat :=
  network.reserved.size - network.edges.countP network.reserved.contains

def isExhausted (network : Network) : Bool := network.poolSize ≤ network.poolUsed

def following (network : Network) (offset : Nat) : Nat :=
  if network.size ≤ offset + 1 then 0 else offset + 1

def probe (network : Network) : (steps : Nat) → (offset : Nat) → Option Nat
  | 0, _ => none
  | steps + 1, offset =>
    if network.isFree offset then some offset
    else network.probe steps (network.following offset)

-- Steps that find a free distance if there is one: only a reservation or an edge can be in the
-- way, and none is met twice.
def probeSteps (network : Network) : Nat := network.reserved.size + 3

end Network
end AddressPool
