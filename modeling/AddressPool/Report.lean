import AddressPool.Address.Parser
import AddressPool.Address.Printer
import AddressPool.Address.Record
import AddressPool.Address.Wire
import AddressPool.Network.Basic
import AddressPool.Network.Session
import AddressPool.Text.Hex

namespace AddressPool

abbrev Report := List (String × String)

namespace Report

def hex (bytes : Bytes) : String := String.ofList (Text.hexEncode bytes)

def number (n : Nat) : String := String.ofList (Text.numeral n)

def flag (value : Bool) : String := if value then "true" else "false"

def fingerprint (value : UInt64) : String := String.ofList (Text.hexPlaces 16 value.toNat)

-- Ports and the wire form belong to IP addresses only, masks to texts that carry one.
def ofAddress (address : Address) (mask : Option Nat) : Report :=
  let onlyIp (entry : String × String) : Report := if address.family.isIp then [entry] else []
  [("family", address.family.label), ("address", address.hostText), ("full", address.text)] ++
    onlyIp ("port", number address.port.toNat) ++
    mask.toList.map (fun mask => ("netmask", number mask)) ++
    [("any", flag address.isAny), ("loopback", flag address.isLoopback),
      ("hash", fingerprint address.fingerprint)] ++
    onlyIp ("wire", hex (Wire.encode address true true)) ++
    [("native", hex (Record.encode address))]

def ofAddressText (text : String) (port : UInt16) : Except ArgumentFault Report :=
  (Address.parseWithMask text port).map fun (address, mask) => ofAddress address mask

def ofNetwork (network : Network) : Report :=
  [("network", network.text), ("family", Family.label (.ip network.block.version)),
    ("mask", number network.block.maskSize), ("size", number network.size),
    ("first", network.first.text), ("last", network.last.text),
    ("gateway", network.gateway.text)]

def width (report : Report) : Nat := (report.map fun (label, _) => label.length).foldl max 0

def line (width : Nat) (label value : String) : String :=
  String.ofList (List.replicate (width - label.length) ' ') ++ label ++ ": " ++ value

def lines (report : Report) : List String :=
  report.map fun (label, value) => line report.width label value

end Report
end AddressPool
