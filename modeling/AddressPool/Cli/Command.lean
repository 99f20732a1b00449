import AddressPool.Block
import AddressPool.Cli.Options
import AddressPool.Job.Allocation

namespace AddressPool.Cli

inductive JobSource where
  | given (job : Job)
  | file (path : String)
deriving DecidableEq

inductive Command where
  | inspect (address : String) (port : UInt16)
  | encode (address : String) (tagged withPort : Bool)
  | decode (data : String) (family : Option Version) (withPort : Bool)
  | network (netspec : String)
  | allocate (source : JobSource)
deriving DecidableEq

inductive Invocation where
  | version
  | run (verbose : Bool) (command : Command)
deriving DecidableEq

namespace Command

def verboseSpec : OptionSpec := ⟨"verbose", some 'v', .flag⟩

def versionSpec : OptionSpec := ⟨"version", some 'V', .final⟩

def inspectSpecs : List OptionSpec := [verboseSpec, ⟨"port", some 'p', .single⟩]

def encodeSpecs : List OptionSpec :=
  [verboseSpec, ⟨"no-type", none, .flag⟩, ⟨"no-port", none, .flag⟩]

def decodeSpecs : List OptionSpec :=
  [verboseSpec, ⟨"family", none, .single⟩, ⟨"no-port", none, .flag⟩]

def networkSpecs : List OptionSpec := [verboseSpec]

def jobSpecs : List OptionSpec :=
  [⟨"netspec", none, .single⟩, ⟨"static", none, .repeated⟩, ⟨"identifier", none, .repeated⟩,
    ⟨"count", none, .single⟩, ⟨"seed", none, .single⟩]

def allocateSpecs : List OptionSpec :=
  verboseSpec :: ⟨"config", some 'c', .single⟩ :: jobSpecs

-- A port may carry a sign, as long as it is in range.
def readPort (text : String) : Option UInt16 := do
  let port ← Text.signedNumber? text.toList
  if 0 ≤ port ∧ port < 65536 then some (UInt16.ofNat port.toNat) else none

def readWord (text : String) : Option UInt64 := do
  let digits := match text.toList with
    | '+' :: digits => digits
    | digits => digits
  let n ← Text.number? digits
  if n < 1 <<< 64 then some (UInt64.ofNat n) else none

def readVersion (text : String) : Option Version :=
  match text with
  | "inet4" => some .v4
  | "inet6" => some .v6
  | _ => none

def optional {α : Type} (read : String → Option α) (text : Option String) : Option (Option α) :=
  match text with
  | none => some none
  | some text => (read text).map some

def inspectOf (arguments : Arguments) : Option Command := do
  let [address] := arguments.plain | none
  let port ← optional readPort (arguments.value? "port")
  some (.inspect address (port.getD 0))

def encodeOf (arguments : Arguments) : Option Command := do
  let [address] := arguments.plain | none
  some (.encode address (!arguments.has "no-type") (!arguments.has "no-port"))

def decodeOf (arguments : Arguments) : Option Command := do
  let [data] := arguments.plain | none
  let family ← optional readVersion (arguments.value? "family")
  some (.decode data family (!arguments.has "no-port"))

def networkOf (arguments : Arguments) : Option Command := do
  let [netspec] := arguments.plain | none
  some (.network netspec)

def jobOf (arguments : Arguments) : Option Job := do
  let network ← (arguments.value? "netspec").bind Block.parse?
  let statics ← (arguments.values "static").mapM Ip.parse?
  let count ← optional readWord (arguments.value? "count")
  let seed ← optional readWord (arguments.value? "seed")
  some ⟨network, statics, arguments.values "identifier", count.getD 0, seed⟩

-- A job comes from a file or from options, not from both.
def sourceOf (arguments : Arguments) : Option JobSource :=
  match arguments.value? "config" with
  | none => (jobOf arguments).map .given
  | some path =>
    if path.isEmpty ∨ jobSpecs.any fun spec => arguments.has spec.name then none
    else some (.file path)

def allocateOf (arguments : Arguments) : Option Command := do
  let [] := arguments.plain | none
  (sourceOf arguments).map .allocate

def reader? (name : String) : Option (List OptionSpec × (Arguments → Option Command)) :=
  match name with
  | "inspect" => some (inspectSpecs, inspectOf)
  | "encode" => some (encodeSpecs, encodeOf)
  | "decode" => some (decodeSpecs, decodeOf)
  | "network" => some (networkSpecs, networkOf)
  | "allocate" => some (allocateSpecs, allocateOf)
  | _ => none

def invocation (verbose : Bool) (name : String) (arguments : List String) :
    Option Invocation := do
  let (specs, command) ← reader? name
  let arguments ← Arguments.read specs arguments
  let command ← command arguments
  some (.run (verbose || arguments.has "verbose") command)

end Command

namespace Invocation

-- Options in front of the command, at most once each, then the command. The version is told
-- as soon as it is asked for.
def readFrom (verbose : Bool) : List String → Option Invocation
  | [] => none
  | argument :: rest =>
    match Token.read [Command.verboseSpec, Command.versionSpec] argument with
    | .plain => Command.invocation verbose argument rest
    | .options given ending =>
      if given.length + verbose.toNat ≤ 1 then
        match ending with
        | .complete => readFrom true rest
        | .stop _ => some version
        | .awaits _ => none
      else none
    | _ => none

def read (arguments : List String) : Option Invocation := readFrom false arguments

end Invocation
end AddressPool.Cli
