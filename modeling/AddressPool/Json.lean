import AddressPool.Bytes
import AddressPool.Text.Hex

namespace AddressPool.Json

-- Why a JSON text cannot be read: it breaks the grammar, it ends early, or it is good JSON of
-- another kind than was asked for. The first fault that is met counts.
inductive Fault where
  | malformed
  | truncated
  | unfit
deriving DecidableEq, Repr

abbrev Reader := StateT Bytes (Except Fault)

def quote : UInt8 := 0x22
def comma : UInt8 := 0x2c
def minus : UInt8 := 0x2d
def colon : UInt8 := 0x3a
def openList : UInt8 := 0x5b
def backslash : UInt8 := 0x5c
def closeList : UInt8 := 0x5d
def openObject : UInt8 := 0x7b
def closeObject : UInt8 := 0x7d

def isBlank (octet : UInt8) : Bool := [0x20, 0x09, 0x0a, 0x0d].contains octet

def isDigit (octet : UInt8) : Bool := 0x30 ≤ octet && octet ≤ 0x39

def skip : Reader Unit := modify List.tail

def peek? : Reader (Option UInt8) := do
  modify (List.dropWhile isBlank)
  return (← get).head?

def peek : Reader UInt8 := do
  match ← peek? with
  | some octet => return octet
  | none => throw .truncated

def octets : Bytes → Reader Unit
  | [] => return
  | octet :: rest => do
    match ← get with
    | [] => throw .truncated
    | next :: _ => if next = octet then skip; octets rest else throw .malformed

def word (text : String) : Reader Unit := octets (Text.utf8 text.toList)

def mark (octet : UInt8) : Reader Unit := do
  if (← peek) = octet then skip else throw .malformed

def literal? (octet : UInt8) : Option String :=
  ["null", "true", "false"].find? fun text => (Text.utf8 text.toList).head? == some octet

-- Numbers are natural numbers below 2^64 or else floating point numbers, of which only the
-- range is looked at.

def digitValue (octet : UInt8) : Nat := octet.toNat - 0x30

def gather (significand : Nat) : Bytes → Nat × Nat
  | [] => (significand, 0)
  | digit :: digits =>
    let next := 10 * significand + digitValue digit
    if next < 1 <<< 64 then gather next digits else (significand, digits.length + 1)

def nearest53 (n : Nat) : Nat :=
  let shift := n.log2 + 1 - 53
  let unit := 1 <<< shift
  let below := n / unit
  let rest := n % unit
  if 2 * rest < unit ∨ 2 * rest = unit ∧ below % 2 = 0 then below * unit else (below + 1) * unit

-- From here on products round past the largest floating point number.
def overflow : Nat := (1 <<< 54 - 1) <<< 970

def inRange (significand : Nat) (exponent : Int) : Bool :=
  if significand = 0 ∨ exponent < 0 then true
  else if 308 < exponent then false
  else nearest53 significand * nearest53 (Nat.pow 10 exponent.toNat) < overflow

-- The digits in front, of which there has to be one. A number that nobody asked for may break
-- the grammar, but it never counts as ending early.
def digits (kept : Bool) : Reader Bytes := do
  let run := (← get).takeWhile isDigit
  modify (List.drop run.length)
  if run.isEmpty then throw (if kept ∧ (← get).isEmpty then .truncated else .malformed)
  return run

def wholeDigits (kept : Bool) : Reader Bytes := do
  let run ← digits kept
  if run.length ≠ 1 ∧ run.head? = some 0x30 then throw .malformed
  return run

def fraction? (kept : Bool) : Reader (Option Bytes) := do
  match ← get with
  | 0x2e :: _ => skip; return some (← digits kept)
  | _ => return none

def natural (digits : Bytes) : Nat := Positional.value 10 (digits.map digitValue)

def exponent? (kept : Bool) : Reader (Option Int) := do
  match ← get with
  | 0x45 :: _ | 0x65 :: _ =>
    skip
    match ← get with
    | 0x2d :: _ => skip; return some (-natural (← digits kept))
    | 0x2b :: _ => skip; return some (natural (← digits kept))
    | _ => return some (natural (← digits kept))
  | _ => return none

def number (negative : Bool) : Reader (Option Nat) := do
  let whole ← wholeDigits true
  let fraction ← fraction? true
  let exponent ← exponent? true
  let (significand, left) := gather 0 whole
  let (scaled, unread) := gather significand (fraction.getD [])
  let scale : Int := left + unread - (fraction.getD []).length + exponent.getD 0
  if !inRange scaled scale then throw .malformed
  if negative ∨ fraction.isSome ∨ exponent.isSome ∨ left ≠ 0 then return none
  return some significand

def skipNumber : Reader Unit := do
  let _ ← wholeDigits false
  let _ ← fraction? false
  let _ ← exponent? false

inductive Place where
  | plain
  | escape
  | code (lead : Option Nat) (digits : Bytes)
  | pairEscape (lead : Nat)
  | pairCode (lead : Nat)
deriving DecidableEq

namespace Place

def escaped? (octet : UInt8) : Option UInt8 :=
  [(quote, quote), (backslash, backslash), (0x2f, 0x2f), (0x62, 0x08), (0x66, 0x0c),
    (0x6e, 0x0a), (0x72, 0x0d), (0x74, 0x09)].lookup octet

def isLead (code : Nat) : Bool := 0xd800 ≤ code && code ≤ 0xdbff

def isTrail (code : Nat) : Bool := 0xdc00 ≤ code && code ≤ 0xdfff

def character (code : Nat) : Bytes := Text.utf8 [Char.ofNat code]

def complete (kept : Bool) (lead : Option Nat) (code : Nat) : Except Fault (Bytes × Place) :=
  if !kept then .ok ([], plain)
  else
    match lead with
    | none =>
      if isTrail code then .error .malformed
      else if isLead code then .ok ([], pairEscape code)
      else .ok (character code, plain)
    | some lead =>
      if isTrail code then
        .ok (character (0x10000 + (lead - 0xd800) * 0x400 + (code - 0xdc00)), plain)
      else .error .malformed

def hexCode? (digits : Bytes) : Option Nat :=
  Text.hexValue? (digits.map fun octet => Char.ofNat octet.toNat)

def advance (kept : Bool) (place : Place) (octet : UInt8) :
    Except Fault (Bytes × Option Place) :=
  match place with
  | plain =>
    if octet = quote then .ok ([], none)
    else if octet = backslash then .ok ([], some escape)
    else if octet < 0x20 then .error .malformed
    else .ok ([octet], some plain)
  | escape =>
    if octet = 0x75 then .ok ([], some (code none []))
    else
      match escaped? octet with
      | some octet => .ok ([octet], some plain)
      | none => .error .malformed
  | code lead digits =>
    let digits := digits ++ [octet]
    if digits.length < 4 then .ok ([], some (code lead digits))
    else
      match hexCode? digits with
      | none => .error .malformed
      | some n => (complete kept lead n).map fun (octets, place) => (octets, some place)
  | pairEscape lead =>
    if octet = backslash then .ok ([], some (pairCode lead)) else .error .malformed
  | pairCode lead =>
    if octet = 0x75 then .ok ([], some (code (some lead) [])) else .error .malformed

end Place

def collect (kept : Bool) (place : Place) : Bytes → Except Fault (Bytes × Bytes)
  | [] => .error .truncated
  | octet :: rest =>
    match place.advance kept octet with
    | .error fault => .error fault
    | .ok (octets, none) => .ok (octets, rest)
    | .ok (octets, some place) =>
      (collect kept place rest).map fun (more, rest) => (octets ++ more, rest)

def text : Reader String := do
  let (octets, rest) ← collect true .plain (← get)
  set rest
  match Text.ofUtf8? octets with
  | some chars => return String.ofList chars
  | none => throw .malformed

def skipText : Reader Unit := do
  let (_, rest) ← collect false .plain (← get)
  set rest

-- A value of another kind than was asked for. Words, numbers and strings have to be good ones
-- before that is noticed; of lists and objects the opening bracket says enough.
def unfit {α : Type} : Reader α := do
  let octet ← peek
  match literal? octet with
  | some text => word text
  | none =>
    if octet = minus then skip; let _ ← number true
    else if isDigit octet then let _ ← number false
    else if octet = quote then skip; let _ ← text
    else if octet ≠ openList ∧ octet ≠ openObject then throw .malformed
  throw .unfit

def string : Reader String := do
  if (← peek) = quote then skip; text else unfit

def natural64 : Reader UInt64 := do
  let octet ← peek
  let negative := octet = minus
  if negative then skip
  if negative ∨ isDigit octet then
    match ← number negative with
    | some n => return UInt64.ofNat n
    | none => throw .unfit
  else unfit

def nullable {α : Type} (value : Reader α) : Reader (Option α) := do
  if (← peek) = 0x6e then word "null"; return none else some <$> value

def parsed {α : Type} (parse? : String → Option α) : Reader α := do
  match parse? (← string) with
  | some value => return value
  | none => throw .unfit

def more (first : Bool) : Reader Bool := do
  let octet ← peek
  if octet = closeList then return false
  if first then return true
  if octet ≠ comma then throw .malformed
  skip
  if (← peek) = closeList then throw .malformed
  return true

def elements {α : Type} (element : Reader α) : (count : Nat) → (first : Bool) → Reader (List α)
  | 0, _ => throw .truncated
  | count + 1, first => do
    if ← more first then
      let value ← element
      return value :: (← elements element count false)
    else return []

-- An element takes an octet at least, so there are fewer of them than octets.
def list {α : Type} (element : Reader α) : Reader (List α) := do
  if (← peek) ≠ openList then unfit
  skip
  let values ← elements element ((← get).length + 1) true
  mark closeList
  return values

def key? (first : Bool) : Reader (Option String) := do
  let octet ← peek
  if octet = closeObject then skip; return none
  if !first then mark comma
  if (← peek) ≠ quote then throw .malformed
  skip
  return some (← text)

inductive Frame where
  | list
  | object
deriving DecidableEq

def Frame.close : Frame → UInt8
  | list => closeList
  | object => closeObject

def Frame.lead : Frame → Reader Unit
  | list => return
  | object => do
    if (← peek) ≠ quote then throw .malformed
    skip
    skipText
    mark colon

inductive Skipping where
  | value
  | behind (first : Bool)

-- Skips values by a stack of the frames that are open, so it goes to any depth.
def skipFrom : (steps : Nat) → Skipping → List Frame → Reader Unit
  | 0, _, _ => throw .truncated
  | steps + 1, .value, around => do
    let octet ← peek
    if octet = openList then skip; skipFrom steps (.behind true) (.list :: around)
    else if octet = openObject then skip; skipFrom steps (.behind true) (.object :: around)
    else
      match literal? octet with
      | some text => word text
      | none =>
        if octet = quote then skip; skipText
        else if octet = minus then skip; skipNumber
        else if isDigit octet then skipNumber
        else throw .malformed
      skipFrom steps (.behind false) around
  | _ + 1, .behind _, [] => return
  | steps + 1, .behind first, frame :: around => do
    let octet ← peek
    if octet = frame.close then skip; skipFrom steps (.behind false) around
    else
      if !first then mark comma
      frame.lead
      skipFrom steps .value (frame :: around)

-- A value of any kind. Each octet of it costs two steps at most.
def skipValue : Reader Unit := do
  skipFrom (2 * (← get).length + 2) .value []

end AddressPool.Json
