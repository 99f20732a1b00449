import AddressPool.Address.Basic
import AddressPool.Ip

namespace AddressPool

namespace LocalPath

def chars (path : LocalPath) : List Char := Text.lossy path.bytes

def text (path : LocalPath) : String := String.ofList path.chars

def debug (path : LocalPath) : String := Text.quoted path.text

end LocalPath

def Family.debug : Family → String
  | unspecified => "Unspecified"
  | ip .v4 => "Inet4"
  | ip .v6 => "Inet6"
  | path => "Local"

namespace Address

def hostChars : Address → List Char
  | unspecified => []
  | ip host _ => host.chars
  | path name => name.chars

-- The address with its port. Brackets keep the colons of an IPv6 address apart from the
-- colon in front of the port.
def chars : Address → List Char
  | unspecified => []
  | ip host port =>
    let numeral := Text.numeral port.toNat
    match host.version with
    | .v4 => host.chars ++ ':' :: numeral
    | .v6 => '[' :: host.chars ++ ']' :: ':' :: numeral
  | path name => name.chars

def hostText (address : Address) : String := String.ofList address.hostChars

def text (address : Address) : String := String.ofList address.chars

def debug : Address → String
  | unspecified => "Unspecified"
  | ip host port =>
    s!"{Family.debug (.ip host.version)} \x7b addr: {host.text}, port: {port} \x7d"
  | path name => s!"Local({name.debug})"

end Address
end AddressPool
