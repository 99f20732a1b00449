import AddressPool.Address.Basic
import AddressPool.Log

namespace AddressPool

-- The fixed-layout records that sockets exchange with the operating system: a little-endian
-- family number, then the fields of the family.
namespace Record

def familyLength : Nat := 2
def v4Length : Nat := 16
def v6Length : Nat := 28
def pathLength : Nat := familyLength + LocalPath.capacity

def pathFamily : Nat := 1
def v4Family : Nat := 2
def v6Family : Nat := 10

-- Octets of the record of an address. Names in the file system take their octets and a
-- closing NUL, abstract names the whole record.
def size : Address → Nat
  | .unspecified => 0
  | .ip host _ => match host.version with | .v4 => v4Length | .v6 => v6Length
  | .path name =>
    if name.isAbstract then pathLength
    else min (familyLength + name.plainLength + 1) pathLength

def encode (address : Address) : Bytes :=
  match address with
  | .unspecified => []
  | .ip host port =>
    match host.version with
    | .v4 =>
      Bytes.littleEndian 2 v4Family ++ Bytes.bigEndian 2 port.toNat ++ host.octets ++
        List.replicate 8 0
    | .v6 =>
      Bytes.littleEndian 2 v6Family ++ Bytes.bigEndian 2 port.toNat ++ List.replicate 4 0 ++
        host.octets ++ List.replicate 4 0
  | .path name => (Bytes.littleEndian 2 pathFamily ++ name.raw).take (size address)

def field (record : Bytes) (start count : Nat) : Bytes := (record.drop start).take count

def port (record : Bytes) : UInt16 := UInt16.ofNat (Bytes.ofBigEndian (field record 2 2))

def read? (record : Bytes) : Option Address :=
  let family := Bytes.ofLittleEndian (field record 0 familyLength)
  if family = v4Family ∧ v4Length ≤ record.length then
    some (.ip (Ip.wrap .v4 (Bytes.ofBigEndian (field record 4 4))) (port record))
  else if family = v6Family ∧ v6Length ≤ record.length then
    some (.ip (Ip.wrap .v6 (Bytes.ofBigEndian (field record 8 16))) (port record))
  else if family = pathFamily ∧ familyLength < record.length then
    some (.path (.ofBytes (field record familyLength LocalPath.capacity)))
  else if family = 0 then some .unspecified
  else none

-- Records that cannot be read stand for nothing in particular, and so does a record that
-- ends before the name in it does.
def decode (record : Bytes) : Address :=
  if record.length < familyLength then .unspecified
  else
    match read? record with
    | none => .unspecified
    | some address => if record.length < size address then .unspecified else address

def decodeLog (record : Bytes) : List Notice :=
  if record.length < familyLength ∨ (read? record).isSome then []
  else [.unreadableRecord (Bytes.ofLittleEndian (field record 0 familyLength)) record.length]

end Record
end AddressPool
