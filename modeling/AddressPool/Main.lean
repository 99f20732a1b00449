import AddressPool.Cli.Run

namespace AddressPool.Cli

structure Terminal where
  forceColor : Option String
  noColor : Option String
  kind : Option String
  isTerminal : Bool

def Terminal.wantsColor (terminal : Terminal) : Bool :=
  match terminal.forceColor with
  | some force => force != "0" && force != "false"
  | none =>
    terminal.isTerminal && terminal.kind != some "dumb" &&
      (terminal.noColor.isNone || terminal.noColor == some "0")

-- Why a file cannot be opened. Error numbers may come with their sign turned around.
def reason (details : String) (code : UInt32) : String :=
  let number := if code < 0x80000000 then code else 0 - code
  s!"{details.capitalize} (os error {number})"

def usage : String :=
  "Usage: addrspace [-v] inspect ADDRESS [-p PORT]\n" ++
  "       addrspace [-v] encode ADDRESS [--no-type] [--no-port]\n" ++
  "       addrspace [-v] decode DATA [--family inet4|inet6] [--no-port]\n" ++
  "       addrspace [-v] network NETSPEC\n" ++
  "       addrspace [-v] allocate --netspec NETSPEC [--static ADDRESS]... " ++
  "[--identifier NAME]... [--count COUNT] [--seed SEED]\n" ++
  "       addrspace [-v] allocate --config FILE\n" ++
  "       addrspace --version\n"

-- The outermost layer: the environment and the file of a job go in, text and status come out.

def openFile (path : String) : IO FileText := do
  try
    let text ← IO.FS.readBinFile path
    return .found text.toList
  catch
    | .noFileOrDirectory _ _ _ => return .missing
    | .inappropriateType _ code details => return .unreadable (reason details code)
    | .permissionDenied _ code details => return .unreadable (reason details code)
    -- A path is an argument the system refuses only when it is too long.
    | .invalidArgument _ code _ => return .unreadable (reason "file name too long" code)
    | other => return .unreadable other.toString

def jobFile (arguments : List String) : IO FileText :=
  match Invocation.read arguments with
  | some (.run _ (.allocate (.file path))) => openFile path
  | _ => return .missing

def terminal : IO Terminal := do
  return ⟨← IO.getEnv "FORCE_COLOR", ← IO.getEnv "NO_COLOR", ← IO.getEnv "TERM",
    ← (← IO.getStdout).isTty⟩

def start (arguments : List String) : IO UInt32 := do
  let file ← jobFile arguments
  let entropy := Generator.ofOctets (← IO.getRandomBytes 32).toList
  let trace := (← IO.getEnv "ADDRSPACE_TRACE").isSome
  let color := (← terminal).wantsColor
  match respond (fun _ => file) entropy trace color arguments with
  | none =>
    (← IO.getStderr).putStr usage
    return 2
  | some (output, succeeded) =>
    (← IO.getStdout).putStr output
    return if succeeded then 0 else 1

end AddressPool.Cli

def main (arguments : List String) : IO UInt32 := AddressPool.Cli.start arguments
