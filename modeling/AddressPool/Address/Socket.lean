import AddressPool.Address.Printer

namespace AddressPool.Address

-- Socket address notation, `1.2.3.4:5` and `[::1]:5`: always with a port, and for IPv6 with
-- an optional numeric zone, which addresses here do not keep.

def socketText (address : Address) : Except UnsupportedFamily String :=
  match address.host? with
  | some _ => .ok address.text
  | none => .error ⟨.toSocketAddress, address.family⟩

def readSocketPort (text : List Char) : Option UInt16 := do
  let port ← Text.number? text
  if port < 1 <<< 16 then some (UInt16.ofNat port) else none

def readZoned (text : List Char) : Option Ip :=
  match Text.cut? '%' text with
  | none => Ip.readV6 .strict text
  | some (host, zone) => do
    let zone ← Text.number? zone
    if zone < 1 <<< 32 then Ip.readV6 .strict host else none

def ofSocketText? (text : String) : Option Address :=
  match text.toList with
  | '[' :: inside => do
    let (host, tail) ← Text.cut? ']' inside
    let host ← readZoned host
    let port ← (Text.after? [':'] tail).bind readSocketPort
    some (.ip host port)
  | plain => do
    let (host, port) ← Text.cut? ':' plain
    let host ← Ip.readV4 .strict host
    let port ← readSocketPort port
    some (.ip host port)

end AddressPool.Address
