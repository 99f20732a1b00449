import AddressPool.Address.Basic
import AddressPool.Log

namespace AddressPool

-- Source and destination in raw IP headers. Only the version and the places of the two
-- addresses count; the rest of the header is not looked at.
namespace Header

def versionNumber? (header : Bytes) : Option Nat := header.head?.map fun first => first.toNat / 16

def version? (header : Bytes) : Option Version :=
  match versionNumber? header with
  | some 4 => some .v4
  | some 6 => some .v6
  | _ => none

def sourceStart : Version → Nat
  | .v4 => 12
  | .v6 => 8

def destinationStart (version : Version) : Nat := sourceStart version + version.octetCount

def addressAt (header : Bytes) (version : Version) (start : Nat) : Option Address :=
  (Ip.ofOctets? version ((header.drop start).take version.octetCount)).map Address.ofIp

def source? (header : Bytes) : Option Address := do
  let version ← version? header
  addressAt header version (sourceStart version)

def destination? (header : Bytes) : Option Address := do
  let version ← version? header
  addressAt header version (destinationStart version)

def addresses? (header : Bytes) : Option (Address × Address) := do
  let version ← version? header
  let source ← addressAt header version (sourceStart version)
  let destination ← addressAt header version (destinationStart version)
  some (source, destination)

def log (header : Bytes) : List Notice :=
  match versionNumber? header, version? header with
  | some number, none => [.noIpHeader number]
  | _, _ => []

end Header
end AddressPool
