import AddressPool.Address.Basic
import AddressPool.Log

namespace AddressPool

-- The short form that protocol headers carry: an optional family tag, the octets of the
-- address and an optional port. Only IP addresses have one.
namespace Wire

def size (family : Family) (tagged withPort : Bool) : Nat :=
  if family.isIp then
    family.octetCount + (if tagged then 1 else 0) + (if withPort then 2 else 0)
  else 0

def encode (address : Address) (tagged withPort : Bool) : Bytes :=
  match address with
  | .ip host port =>
    (if tagged then [address.family.tag] else []) ++ host.octets ++
      (if withPort then Bytes.bigEndian 2 port.toNat else [])
  | _ => []

structure Cursor (capacity : Nat) where
  buffer : Bytes
  offset : Nat
  whole : buffer.length = capacity
  within : offset ≤ capacity

namespace Cursor

variable {capacity : Nat}

def start (buffer : Bytes) : Cursor buffer.length := ⟨buffer, 0, rfl, Nat.zero_le _⟩

def put (cursor : Cursor capacity) (octets : Bytes)
    (fits : cursor.offset + octets.length ≤ capacity) : Cursor capacity where
  buffer := cursor.buffer.take cursor.offset ++ octets ++
    cursor.buffer.drop (cursor.offset + octets.length)
  offset := cursor.offset + octets.length
  whole := by
    have whole := cursor.whole
    simp only [List.length_append, List.length_take, List.length_drop]
    omega
  within := fits

def putAll (cursor : Cursor capacity) (fields : List Bytes)
    (fits : cursor.offset + fields.flatten.length ≤ capacity) : Cursor capacity :=
  match fields with
  | [] => cursor
  | octets :: later =>
    have all : cursor.offset + octets.length + later.flatten.length ≤ capacity := by
      rwa [List.flatten_cons, List.length_append, ← Nat.add_assoc] at fits
    putAll (cursor.put octets (Nat.le_of_add_right_le all)) later all

end Cursor

def fields (address : Address) (tagged withPort : Bool) : List Bytes :=
  match address with
  | .ip host port =>
    (if tagged then [[address.family.tag]] else []) ++ [host.octets] ++
      (if withPort then [Bytes.bigEndian 2 port.toNat] else [])
  | _ => []

theorem fields_length (address : Address) (tagged withPort : Bool) :
    (fields address tagged withPort).flatten.length = size address.family tagged withPort := by
  cases address with
  | ip host port =>
    change _ = host.version.octetCount + _ + _
    cases tagged <;> cases withPort <;>
      simp [fields, host.octets_length, Bytes.bigEndian_length, Nat.add_comm, Nat.add_left_comm]
  | unspecified | path => rfl

-- Writes into the front of a buffer, all or nothing. The count of octets written comes first.
def writeTo (buffer : Bytes) (address : Address) (tagged withPort : Bool) : Nat × Bytes :=
  let required := size address.family tagged withPort
  if refused : required = 0 ∨ buffer.length < required then (0, buffer)
  else
    have fits : 0 + (fields address tagged withPort).flatten.length ≤ buffer.length := by
      rw [fields_length]
      omega
    let written := (Cursor.start buffer).putAll (fields address tagged withPort) fits
    (written.offset, written.buffer)

def decodeAs (family : Family) (buffer : Bytes) (withPort : Bool) : Option (Address × Nat) :=
  match family with
  | .ip version =>
    let required := size family false withPort
    if buffer.length < required then none
    else
      let octets := buffer.take version.octetCount
      let port := if withPort then (buffer.drop version.octetCount).take 2 else []
      some (.ip (Ip.wrap version (Bytes.ofBigEndian octets))
        (UInt16.ofNat (Bytes.ofBigEndian port)), required)
  | _ => none

def decode (buffer : Bytes) (withPort : Bool) : Option (Address × Nat) :=
  match buffer with
  | [] => none
  | tag :: rest => do
    let family ← Family.ofTag? tag
    let (address, count) ← decodeAs family rest withPort
    some (address, count + 1)

def decodeLog : Bytes → List Notice
  | [] => []
  | tag :: _ => if (Family.ofTag? tag).isNone then [.unknownTag tag] else []

end Wire
end AddressPool
