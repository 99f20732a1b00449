import AddressPool.Address.Basic
import AddressPool.Ip
import AddressPool.Log

namespace AddressPool

inductive AddressText where
  | nothing
  | ip (host : Ip) (mask : Option Nat) (port : UInt16)
  | path (octets : Bytes)
deriving DecidableEq

namespace AddressText

def family : AddressText → Family
  | nothing => .unspecified
  | ip host _ _ => .ip host.version
  | path _ => .path

structure Parts where
  host : Ip
  port : Option UInt16
  mask : Option Nat

def readPort (input : String) (port : List Char) : Except ArgumentFault UInt16 :=
  match Text.number? port with
  | none => .error (.malformedPort input (String.ofList port))
  | some n =>
    if n < 65536 then .ok (UInt16.ofNat n)
    else .error (.portTooLarge input (String.ofList port))

def readMask (input : String) (limit : Nat) (mask : List Char) : Except ArgumentFault Nat :=
  match Text.number? mask with
  | none => .error (.malformedMask input (String.ofList mask))
  | some n => if n ≤ limit then .ok n else .error (.maskTooLong input limit)

def readBracketed (input : String) (inside : List Char) : Except ArgumentFault Parts :=
  match Text.cut? ']' inside with
  | none => .error (.unclosedBracket input)
  | some (host, tail) =>
    match Ip.readV6 .strict host with
    | none => .error (.notIpv6 input (String.ofList host))
    | some address =>
      match tail with
      | [] => .ok ⟨address, none, none⟩
      | ':' :: port => (readPort input port).map fun port => ⟨address, some port, none⟩
      | tail => .error (.afterBracket input (String.ofList tail))

-- An IP address with an optional mask, or an IPv4 address with a port. No answer means that
-- the text is the name of a local socket.
def readPlain (input : String) (text : List Char) : Except ArgumentFault (Option Parts) :=
  let (host, mask) := match Text.cut? '/' text with
    | some (host, mask) => (host, some mask)
    | none => (text, none)
  match Ip.read .strict host with
  | some address =>
    match mask with
    | none => .ok (some ⟨address, none, none⟩)
    | some mask =>
      (readMask input address.version.width mask).map fun mask => some ⟨address, none, some mask⟩
  | none =>
    match (Text.cut? ':' host).bind fun (before, port) =>
        (Ip.readV4 .strict before).map fun address => (address, port) with
    | none => .ok none
    | some (address, port) =>
      if mask.isSome then .error (.maskAfterPort input)
      else (readPort input port).map fun port => some ⟨address, some port, none⟩

def readParts (input : String) : Except ArgumentFault (Option Parts) :=
  match input.toList with
  | '[' :: inside => (readBracketed input inside).map some
  | text => readPlain input text

-- Reads `host`, `host/mask`, `host:port` and `[host]:port`. A port other than zero wins over
-- one in the text, and a text without a mask passes only if bare hosts are allowed.
def read (input : String) (bareAllowed : Bool) (port : UInt16) :
    Except ArgumentFault AddressText :=
  if input.isEmpty then .ok nothing
  else
    match readParts input with
    | .error fault => .error fault
    | .ok none => .ok (path (Text.utf8 input.toList))
    | .ok (some parts) =>
      if parts.mask.isNone && !bareAllowed then .error (.maskRequired input)
      else .ok (ip parts.host parts.mask (if port = 0 then parts.port.getD 0 else port))

def readLog (input : String) : List Notice :=
  match read input true 0 with
  | .ok (.path _) => [.treatedAsPath input]
  | _ => []

end AddressText

namespace Address

def parseWithMask (text : String) (port : UInt16) : Except ArgumentFault (Address × Option Nat) :=
  (AddressText.read text true port).map fun
    | .nothing => (.unspecified, none)
    | .path octets => (.path (.ofBytes octets), none)
    | .ip host mask port => (.ip host port, mask)

def parse (text : String) (port : UInt16) : Except ArgumentFault Address :=
  (parseWithMask text port).map Prod.fst

def isBareHost (text : String) : Bool :=
  match AddressText.read text true 0 with
  | .ok (.ip _ none _) => true
  | _ => false

end Address
end AddressPool
