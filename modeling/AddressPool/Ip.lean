import AddressPool.Bytes
import AddressPool.Text.Hex
import AddressPool.Text.Parts

namespace AddressPool

inductive Version where
  | v4
  | v6
deriving DecidableEq, Repr

namespace Version

def width : Version → Nat
  | v4 => 32
  | v6 => 128

def count (version : Version) : Nat := 1 <<< version.width

theorem count_pos (version : Version) : 0 < version.count := by
  cases version <;> decide

def octetCount (version : Version) : Nat := version.width / 8

end Version

@[ext] structure Ip where
  version : Version
  value : Nat
  value_lt : value < version.count
deriving DecidableEq

namespace Ip

def wrap (version : Version) (n : Nat) : Ip :=
  ⟨version, n % version.count, Nat.mod_lt n version.count_pos⟩

def successor (ip : Ip) : Ip := wrap ip.version (ip.value + 1)

def octets (ip : Ip) : Bytes := Bytes.bigEndian ip.version.octetCount ip.value

def ofOctets? (version : Version) (octets : Bytes) : Option Ip :=
  if octets.length = version.octetCount then some (wrap version (Bytes.ofBigEndian octets))
  else none

def isAny (ip : Ip) : Bool := ip.value == 0

-- The one loopback address that has a name, 127.0.0.1 or ::1.
def isLoopback (ip : Ip) : Bool :=
  match ip.version with
  | .v4 => ip.value == 0x7f000001
  | .v6 => ip.value == 1

theorem octets_length (ip : Ip) : ip.octets.length = ip.version.octetCount :=
  Bytes.bigEndian_length _ _

theorem wrap_value (ip : Ip) : wrap ip.version ip.value = ip := by
  ext
  · rfl
  · exact Nat.mod_eq_of_lt ip.value_lt

def dottedQuad (n : Nat) : List Char :=
  ['.'].intercalate ((Positional.places 256 4 n).map Text.numeral)

def groups (n : Nat) : List Nat := Positional.places 65536 8 n

def groupsText (groups : List Nat) : List Char :=
  [':'].intercalate (groups.map (Nat.toDigits 16))

def zeroRun (groups : List Nat) : Nat := (groups.takeWhile (· == 0)).length

def longestGap (groups : List Nat) : Nat × Nat :=
  (List.range groups.length).foldl (fun best start =>
    let length := zeroRun (groups.drop start)
    if best.2 < length then (start, length) else best) (0, 0)

def compressed (groups : List Nat) : List Char :=
  let gap := longestGap groups
  if gap.2 < 2 then groupsText groups
  else groupsText (groups.take gap.1) ++ [':', ':'] ++ groupsText (groups.drop (gap.1 + gap.2))

-- IPv6 addresses that embed an IPv4 address after 16 one bits show it as a dotted quad.
def isMapped (n : Nat) : Bool := n >>> 32 == 0xffff

def chars (ip : Ip) : List Char :=
  match ip.version with
  | .v4 => dottedQuad ip.value
  | .v6 =>
    if isMapped ip.value then "::ffff:".toList ++ dottedQuad ip.value
    else compressed (groups ip.value)

def text (ip : Ip) : String := String.ofList ip.chars

-- Two ways of writing addresses are in use. They differ in whether a decimal octet may start
-- with a zero and whether a double colon may stand for no group at all.
structure Grammar where
  leadingZeros : Bool
  emptyGap : Bool

def Grammar.strict : Grammar := ⟨false, false⟩

def Grammar.lenient : Grammar := ⟨true, true⟩

def readOctet (grammar : Grammar) (text : List Char) : Option Nat := do
  let n ← Text.number? text
  if text.length ≤ 3 ∧ n < 256 ∧
      (grammar.leadingZeros ∨ text.length = 1 ∨ text.head? ≠ some '0') then some n
  else none

def readQuad (grammar : Grammar) (text : List Char) : Option Nat :=
  match text.splitOn '.' with
  | [a, b, c, d] =>
    ([a, b, c, d].mapM (readOctet grammar)).map (Positional.value 256)
  | _ => none

def readGroup (text : List Char) : Option Nat :=
  if 1 ≤ text.length ∧ text.length ≤ 4 then Text.hexValue? text else none

-- Groups between colons. Where it is allowed, the last part may be a dotted quad, which
-- stands for two groups.
def readParts (grammar : Grammar) (quadAllowed : Bool) : List (List Char) → Option (List Nat)
  | [] => some []
  | [last] =>
    match readGroup last with
    | some group => some [group]
    | none =>
      if quadAllowed then (readQuad grammar last).map (Positional.places 65536 2) else none
  | part :: rest => do
    let group ← readGroup part
    let groups ← readParts grammar quadAllowed rest
    some (group :: groups)

def readGroups (grammar : Grammar) (quadAllowed : Bool) (text : List Char) : Option (List Nat) :=
  if text.isEmpty then some [] else readParts grammar quadAllowed (text.splitOn ':')

def readEight (grammar : Grammar) (text : List Char) : Option (List Nat) :=
  match Text.cutDouble? ':' text with
  | none => do
    let groups ← readGroups grammar true text
    if groups.length = 8 then some groups else none
  | some (before, after) => do
    let head ← readGroups grammar false before
    let tail ← readGroups grammar true after
    let written := head.length + tail.length
    if head.length ≤ 7 ∧ (written ≤ 7 ∨ grammar.emptyGap ∧ written = 8) then
      some (head ++ List.replicate (8 - written) 0 ++ tail)
    else none

def readV4 (grammar : Grammar) (text : List Char) : Option Ip :=
  (readQuad grammar text).map (wrap .v4)

def readV6 (grammar : Grammar) (text : List Char) : Option Ip :=
  (readEight grammar text).map fun groups => wrap .v6 (Positional.value 65536 groups)

def read (grammar : Grammar) (text : List Char) : Option Ip :=
  (readV4 grammar text).or (readV6 grammar text)

def parse? (text : String) : Option Ip := read .strict text.toList

end Ip
end AddressPool
