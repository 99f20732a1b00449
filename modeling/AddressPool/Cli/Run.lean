import AddressPool.Cli.Command
import AddressPool.Job.Allocation
import AddressPool.Job.Reader
import AddressPool.Report
import AddressPool.Text.Quoted

namespace AddressPool.Cli

-- Each command gives a transcript of what it says; nothing here reads or prints.

inductive FileText where
  | found (text : Bytes)
  | missing
  | unreadable (reason : String)
deriving DecidableEq

def remarks (notices : List Notice) : List Event := notices.map .notice

def succeed (notices : List Notice) (lines : List String) : Transcript :=
  ⟨remarks notices ++ lines.map .line, true⟩

def fail (notices : List Notice) (message : String) : Transcript :=
  ⟨remarks (notices ++ [.failed message]), false⟩

def inspect (address : String) (port : UInt16) : Transcript :=
  let heard := AddressText.readLog address
  match Report.ofAddressText address port with
  | .ok report => succeed heard report.lines
  | .error fault => fail heard fault.message

def encode (text : String) (tagged withPort : Bool) : Transcript :=
  let heard := AddressText.readLog text
  match Address.parse text 0 with
  | .error fault => fail heard fault.message
  | .ok address =>
    if address.family.isIp then succeed heard [Report.hex (Wire.encode address tagged withPort)]
    else fail heard s!"{address.family.label} addresses have no wire encoding"

-- Hex data may be surrounded by blanks and start with `0x`, even more than once.
def stripHexMark : List Char → List Char
  | '0' :: 'x' :: rest => stripHexMark rest
  | text => text

def readData (data : String) : Except Text.HexFault Bytes :=
  Text.hexDecode (stripHexMark (Text.trim data.toList))

def decode (data : String) (family : Option Version) (withPort : Bool) : Transcript :=
  match readData data with
  | .error fault => fail [] fault.message
  | .ok bytes =>
    let heard := if family.isNone then Wire.decodeLog bytes else []
    let decoded := match family with
      | some version => Wire.decodeAs (.ip version) bytes withPort
      | none => Wire.decode bytes withPort
    match decoded with
    | none => fail heard s!"Could not decode an address from {bytes.length} bytes"
    | some (address, count) =>
      let trailing := if count < bytes.length then [.trailingBytes (bytes.length - count)] else []
      succeed (heard ++ trailing) [address.text]

def network (netspec : String) (entropy : Generator) : Transcript :=
  let (created, heard) := Network.create netspec entropy
  match created with
  | .ok network => succeed heard (Report.ofNetwork network).lines
  | .error fault => fail heard fault.message

def allocateFile (path : String) (file : FileText) (entropy : Generator) : Transcript :=
  match file with
  | .missing => ⟨remarks [.missingJob path], false⟩
  | .unreadable reason => fail [] reason
  | .found text =>
    match Job.read text with
    | .error fault => fail [] fault.message
    | .ok job =>
      let transcript := job.allocate entropy
      { transcript with events := remarks [.loadedJob path] ++ transcript.events }

def Command.run (files : String → FileText) (entropy : Generator) : Command → Transcript
  | .inspect address port => Cli.inspect address port
  | .encode address tagged withPort => Cli.encode address tagged withPort
  | .decode data family withPort => Cli.decode data family withPort
  | .network netspec => Cli.network netspec entropy
  | .allocate (.given job) => job.allocate entropy
  | .allocate (.file path) => allocateFile path (files path) entropy

def versionText : String := "addrspace 1.0.0"

-- What a command line shows, and whether it ends well. There is no answer to a command line
-- that asks for nothing.
def respond (files : String → FileText) (entropy : Generator) (trace color : Bool)
    (arguments : List String) : Option (String × Bool) :=
  match Invocation.read arguments with
  | none => none
  | some .version => some (versionText ++ "\n", true)
  | some (.run verbose command) =>
    let transcript := command.run files entropy
    some (Display.output ⟨verbose, trace, color⟩ transcript, transcript.succeeded)

end AddressPool.Cli
