import AddressPool.Bytes
import AddressPool.Text.Quoted

namespace AddressPool.Text

def utf8 (text : List Char) : Bytes := text.flatMap String.utf8EncodeChar

-- Reading octets that need not be UTF-8. A character under way is described by the octets it
-- still owes, the bounds on the next of them, and the bits collected so far.
structure Partial where
  owed : Nat
  low : UInt8
  high : UInt8
  bits : Nat

def replacement : Char := Char.ofNat 0xfffd

-- What the first octet of a character promises. The bounds on the second octet rule out
-- overlong forms, surrogates and values past U+10FFFF.
def begin (octet : UInt8) : List Char × Option Partial :=
  let b := octet.toNat
  if b < 0x80 then ([Char.ofNat b], none)
  else if 0xc2 ≤ b ∧ b ≤ 0xdf then ([], some ⟨1, 0x80, 0xbf, b % 0x20⟩)
  else if b = 0xe0 then ([], some ⟨2, 0xa0, 0xbf, 0⟩)
  else if b = 0xed then ([], some ⟨2, 0x80, 0x9f, 0xd⟩)
  else if 0xe1 ≤ b ∧ b ≤ 0xef then ([], some ⟨2, 0x80, 0xbf, b % 0x10⟩)
  else if b = 0xf0 then ([], some ⟨3, 0x90, 0xbf, 0⟩)
  else if 0xf1 ≤ b ∧ b ≤ 0xf3 then ([], some ⟨3, 0x80, 0xbf, b % 0x8⟩)
  else if b = 0xf4 then ([], some ⟨3, 0x80, 0x8f, 4⟩)
  else ([replacement], none)

def advance : Option Partial → UInt8 → List Char × Option Partial
  | none, octet => begin octet
  | some part, octet =>
    if part.low ≤ octet ∧ octet ≤ part.high then
      let bits := part.bits * 0x40 + octet.toNat % 0x40
      if part.owed ≤ 1 then ([Char.ofNat bits], none)
      else ([], some ⟨part.owed - 1, 0x80, 0xbf, bits⟩)
    else
      let afresh := begin octet
      (replacement :: afresh.1, afresh.2)

def decodeFrom : Option Partial → Bytes → List Char
  | none, [] => []
  | some _, [] => [replacement]
  | state, octet :: rest =>
    let next := advance state octet
    next.1 ++ decodeFrom next.2 rest

-- Each maximal run of octets that starts a character and does not finish it becomes one
-- replacement character, as does each octet that starts none.
def lossy (bytes : Bytes) : List Char := decodeFrom none bytes

def ofUtf8? (bytes : Bytes) : Option (List Char) :=
  let text := lossy bytes
  if utf8 text = bytes then some text else none

def hexDigit? (c : Char) : Option Nat :=
  if '0' ≤ c ∧ c ≤ '9' then some (c.toNat - '0'.toNat)
  else if 'a' ≤ c ∧ c ≤ 'f' then some (c.toNat - 'a'.toNat + 10)
  else if 'A' ≤ c ∧ c ≤ 'F' then some (c.toNat - 'A'.toNat + 10)
  else none

def hexValue? (text : List Char) : Option Nat :=
  (text.mapM hexDigit?).map (Positional.value 16)

def hexPlaces (count n : Nat) : List Char :=
  (Positional.places 16 count n).map Nat.digitChar

def hexEncode (bytes : Bytes) : List Char :=
  bytes.flatMap fun octet => hexPlaces 2 octet.toNat

inductive HexFault where
  | oddLength
  | badDigit (octet : UInt8) (position : Nat)
deriving DecidableEq

def HexFault.message : HexFault → String
  | .oddLength => "Odd number of digits"
  | .badDigit octet position =>
    s!"Invalid character {quotedChar (Char.ofNat octet.toNat)} at position {position}"

def hexPairs (position : Nat) : Bytes → Except HexFault Bytes
  | high :: low :: rest =>
    match hexDigit? (Char.ofNat high.toNat), hexDigit? (Char.ofNat low.toNat) with
    | none, _ => .error (.badDigit high position)
    | some _, none => .error (.badDigit low (position + 1))
    | some h, some l => (hexPairs (position + 2) rest).map (UInt8.ofNat (16 * h + l) :: ·)
  | _ => .ok []

def hexDecode (text : List Char) : Except HexFault Bytes :=
  let octets := utf8 text
  if octets.length % 2 = 1 then .error .oddLength else hexPairs 0 octets

end AddressPool.Text
