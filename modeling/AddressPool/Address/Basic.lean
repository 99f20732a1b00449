import AddressPool.Bytes
import AddressPool.Digest
import AddressPool.Ip
import AddressPool.Text.Hex
import AddressPool.Text.Quoted

namespace AddressPool

inductive Family where
  | unspecified
  | ip (version : Version)
  | path
deriving DecidableEq, Repr, Inhabited

namespace Family

-- The number that stands for the family in front of an address on the wire. Families are
-- ordered by it too.
def tag : Family → UInt8
  | unspecified => 0
  | ip .v4 => 1
  | ip .v6 => 2
  | path => 3

def ofTag? (tag : UInt8) : Option Family :=
  [unspecified, ip .v4, ip .v6, path].find? fun family => family.tag == tag

def octetCount : Family → Nat
  | ip version => version.octetCount
  | unspecified | path => 0

def maskLimit : Family → Nat
  | ip version => version.width
  | unspecified | path => 0

def isIp : Family → Bool
  | ip _ => true
  | unspecified | path => false

def label : Family → String
  | unspecified => "unspecified"
  | ip .v4 => "IPv4"
  | ip .v6 => "IPv6"
  | path => "local"

end Family

inductive ArgumentFault where
  | unclosedBracket (input : String)
  | notIpv6 (input host : String)
  | afterBracket (input tail : String)
  | malformedMask (input mask : String)
  | maskTooLong (input : String) (limit : Nat)
  | maskAfterPort (input : String)
  | malformedPort (input port : String)
  | portTooLarge (input port : String)
  | maskRequired (input : String)
  | wrongLength (count : Nat) (family : Family)
deriving DecidableEq, Repr

namespace ArgumentFault

def reason : ArgumentFault → String
  | unclosedBracket input => s!"{input}: missing closing bracket"
  | notIpv6 input host => s!"{input}: {host} is not an IPv6 address"
  | afterBracket input tail => s!"{input}: unexpected {Text.quoted tail} after closing bracket"
  | malformedMask input mask => s!"{input}: malformed netmask {Text.quoted mask}"
  | maskTooLong input limit => s!"{input}: netmask must be between 0 and {limit}"
  | maskAfterPort input => s!"{input}: a netmask cannot follow a port"
  | malformedPort input port => s!"{input}: malformed port {Text.quoted port}"
  | portTooLarge input port => s!"{input}: port {port} is out of range"
  | maskRequired input => s!"{input}: a netmask is required"
  | wrongLength count family => s!"{count} bytes is not a valid {family.label} address length"

def message (fault : ArgumentFault) : String := s!"Invalid argument: {fault.reason}"

end ArgumentFault

inductive IpOperation where
  | setPort
  | increment
  | toSocketAddress
deriving DecidableEq, Repr

def IpOperation.phrase : IpOperation → String
  | .setPort => "set the port of"
  | .increment => "increment"
  | .toSocketAddress => "convert to std::net::SocketAddr"

structure UnsupportedFamily where
  operation : IpOperation
  family : Family
deriving DecidableEq, Repr

def UnsupportedFamily.message (fault : UnsupportedFamily) : String :=
  s!"Cannot {fault.operation.phrase} a {fault.family.label} address"

def LocalPath.capacity : Nat := 108

-- The name of a local socket, padded with NULs to the full capacity.
@[ext] structure LocalPath where
  raw : Bytes
  raw_length : raw.length = LocalPath.capacity
deriving DecidableEq

namespace LocalPath

def ofBytes (bytes : Bytes) : LocalPath :=
  ⟨bytes.take capacity ++ List.replicate (capacity - bytes.length) 0,
    by simp [capacity]; omega⟩

def bytes (path : LocalPath) : Bytes :=
  (path.raw.reverse.dropWhile (· == 0)).reverse

-- A leading NUL marks a name that lives outside the file system.
def isAbstract (path : LocalPath) : Bool := path.raw.head? == some 0

def plainLength (path : LocalPath) : Nat := (path.raw.takeWhile (· != 0)).length

end LocalPath

inductive Address where
  | unspecified
  | ip (host : Ip) (port : UInt16)
  | path (name : LocalPath)
deriving DecidableEq, Inhabited

namespace Address

def ofIp (host : Ip) : Address := .ip host 0

def family : Address → Family
  | unspecified => .unspecified
  | ip host _ => .ip host.version
  | path _ => .path

def port : Address → UInt16
  | ip _ port => port
  | unspecified | path _ => 0

def host? : Address → Option Ip
  | ip host _ => some host
  | unspecified | path _ => none

def name? : Address → Option LocalPath
  | path name => some name
  | unspecified | ip _ _ => none

def setPort : Address → UInt16 → Except UnsupportedFamily Address
  | ip host _, port => .ok (ip host port)
  | address, _ => .error ⟨.setPort, address.family⟩

def increment : Address → Except UnsupportedFamily Address
  | ip host port => .ok (ip host.successor port)
  | address => .error ⟨.increment, address.family⟩

-- A bare address of a known family. Local names take any length but none at all.
def ofOctets (family : Family) (octets : Bytes) (port : UInt16) : Except ArgumentFault Address :=
  let wrongLength := .error (.wrongLength octets.length family)
  match family with
  | .unspecified => .ok unspecified
  | .ip version =>
    match Ip.ofOctets? version octets with
    | some host => .ok (ip host port)
    | none => wrongLength
  | .path => if octets.isEmpty then wrongLength else .ok (path (.ofBytes octets))

def maskLimit (address : Address) : Nat := address.family.maskLimit

def acceptsMask (address : Address) (mask : Nat) : Bool :=
  address.family.isIp && mask ≤ address.maskLimit

def isAny : Address → Bool
  | ip host _ => host.isAny
  | unspecified | path _ => false

def isLoopback : Address → Bool
  | ip host _ => host.isLoopback
  | unspecified | path _ => false

protected def compare (a b : Address) : Ordering :=
  (Ord.compare a.family.tag b.family.tag).then <|
    match a, b with
    | ip host port, ip host' port' =>
      (Ord.compare host.value host'.value).then (Ord.compare port port')
    | path name, path name' => Ord.compare name.raw name'.raw
    | _, _ => .eq

instance : Ord Address := ⟨Address.compare⟩

def fingerprint (address : Address) : UInt64 :=
  let of (octets : Bytes) (port : UInt16) :=
    let seed := Fingerprint.combine address.family.tag.toUInt64 (Fingerprint.ofBytes octets)
    Fingerprint.combine seed (Fingerprint.ofWord port.toUInt64)
  match address with
  | unspecified => 0
  | ip host port => of host.octets port
  | path name => of name.bytes 0

end Address
end AddressPool
