import AddressPool.Address.Printer
import AddressPool.Block

namespace AddressPool

inductive Level where
  | error
  | warn
  | info
  | debug
  | trace
deriving DecidableEq, Repr

namespace Level

def label : Level → String
  | error => "ERROR"
  | warn => "WARN"
  | info => "INFO"
  | debug => "DEBUG"
  | trace => "TRACE"

def rank : Level → Nat
  | error => 1
  | warn => 2
  | info => 3
  | debug => 4
  | trace => 5

end Level

inductive Source where
  | addresses
  | networks
  | program
deriving DecidableEq, Repr

def Source.label : Source → String
  | .addresses => "sockaddr"
  | .networks => "netalloc"
  | .program => "addrspace"

inductive Notice where
  | treatedAsPath (input : String)
  | unknownTag (tag : UInt8)
  | unreadableRecord (family count : Nat)
  | noIpHeader (version : Nat)
  | managing (network : Block) (size : Nat)
  | resetTo (network : Block)
  | exhausted (network : Block)
  | reserved (ip : Ip) (network : Block)
  | released (ip : Ip) (network : Block)
  | outside (address : Address) (network : Block)
  | alreadyReserved (ip : Ip)
  | trailingBytes (count : Nat)
  | loadedJob (path : String)
  | missingJob (path : String)
  | allocating (network : Block)
  | refused (ip : Ip) (network : Block)
  | tally (count : Nat) (network : Block)
  | failed (message : String)
deriving DecidableEq

namespace Notice

def source : Notice → Source
  | treatedAsPath _ | unknownTag _ | unreadableRecord _ _ | noIpHeader _ => .addresses
  | managing _ _ | resetTo _ | exhausted _ | reserved _ _ | released _ _ | outside _ _
  | alreadyReserved _ => .networks
  | trailingBytes _ | loadedJob _ | missingJob _ | allocating _ | refused _ _ | tally _ _
  | failed _ => .program

def level : Notice → Level
  | treatedAsPath _ | unknownTag _ | unreadableRecord _ _ | noIpHeader _ => .trace
  | managing _ _ | resetTo _ => .debug
  | exhausted _ => .warn
  | reserved _ _ | released _ _ | outside _ _ | alreadyReserved _ => .trace
  | trailingBytes _ => .warn
  | loadedJob _ => .debug
  | missingJob _ => .error
  | allocating _ => .info
  | refused _ _ => .warn
  | tally _ _ => .debug
  | failed _ => .error

def message : Notice → String
  | treatedAsPath input => s!"Treating {Text.quoted input} as a local socket path"
  | unknownTag tag => s!"Unsupported address tag on the wire: {tag}"
  | unreadableRecord family count =>
    s!"Cannot decode native address record (family {family}, {count} bytes)"
  | noIpHeader version => s!"Not an IP header (version {version})"
  | managing network size => s!"Managing network {network.text} ({size} addresses)"
  | resetTo network => s!"Network reset to {network.text}"
  | exhausted network => s!"No free addresses left in {network.text}"
  | reserved ip network => s!"Reserved {ip.text} in {network.text}"
  | released ip network => s!"Released {ip.text} in {network.text}"
  | outside address network =>
    s!"Cannot reserve {address.text}, it is not part of {network.text}"
  | alreadyReserved ip => s!"{ip.text} was already reserved"
  | trailingBytes count => s!"Ignoring {count} trailing bytes"
  | loadedJob path => s!"Loaded allocation config from {path}"
  | missingJob path => s!"Config file not found: {path}"
  | allocating network => s!"Allocating from {network.text}"
  | refused ip network => s!"Could not reserve {ip.text} in {network.text}"
  | tally count network => s!"{count} addresses reserved in {network.text}"
  | failed message => message

end Notice

inductive Event where
  | line (text : String)
  | notice (notice : Notice)
deriving DecidableEq

-- A run ends well or with a fault, of which its last remark tells.
structure Transcript where
  events : List Event
  succeeded : Bool
deriving DecidableEq

structure Display where
  verbose : Bool
  trace : Bool
  color : Bool
deriving DecidableEq

namespace Display

def limit (display : Display) : Level :=
  if display.trace then .trace else if display.verbose then .debug else .info

def isShown (display : Display) (level : Level) : Bool := level.rank ≤ display.limit.rank

def between (before after : Nat) (text : String) : String :=
  s!"\x1b[{before}m{text}\x1b[{after}m"

def colorCode : Level → Nat
  | .error => 31
  | .warn => 33
  | .info => 32
  | .debug => 94
  | .trace => 97

def paddedLabel (level : Level) : String :=
  level.label ++ String.ofList (List.replicate (5 - level.label.length) ' ')

def levelText (display : Display) (level : Level) : String :=
  let label := paddedLabel level
  if display.color then between 1 0 (between (colorCode level) 39 label) else label

def sourceText (display : Display) (source : Source) : String :=
  let name := if display.verbose then s!" [{source.label}]" else ""
  if display.color then between 90 39 name else name

def noticeText (display : Display) (notice : Notice) : String :=
  display.levelText notice.level ++ display.sourceText notice.source ++ ": " ++ notice.message

def eventText (display : Display) : Event → Option String
  | .line text => some text
  | .notice notice =>
    if display.isShown notice.level then some (display.noticeText notice) else none

def output (display : Display) (transcript : Transcript) : String :=
  String.join ((transcript.events.filterMap display.eventText).map fun line => line ++ "\n")

end Display
end AddressPool
