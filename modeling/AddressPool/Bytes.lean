namespace AddressPool

-- Numbers written in a fixed count of places, the most significant place first.
-- Octets of an address, its 16-bit groups and the parts of a dotted quad are all
-- such writings, so they share these two functions.
namespace Positional

def places (base : Nat) : (count : Nat) → Nat → List Nat
  | 0, _ => []
  | count + 1, n => places base count (n / base) ++ [n % base]

def value (base : Nat) (digits : List Nat) : Nat :=
  digits.foldl (fun n digit => n * base + digit) 0

theorem places_length (base count n : Nat) : (places base count n).length = count := by
  induction count generalizing n with
  | zero => rfl
  | succ count ih => simp [places, ih]

theorem value_append (base : Nat) (digits : List Nat) (digit : Nat) :
    value base (digits ++ [digit]) = value base digits * base + digit := by
  simp [value]

end Positional

abbrev Bytes := List UInt8

namespace Bytes

def bigEndian (count n : Nat) : Bytes :=
  (Positional.places 256 count n).map UInt8.ofNat

def ofBigEndian (bytes : Bytes) : Nat :=
  Positional.value 256 (bytes.map UInt8.toNat)

def littleEndian (count n : Nat) : Bytes :=
  (bigEndian count n).reverse

def ofLittleEndian (bytes : Bytes) : Nat :=
  ofBigEndian bytes.reverse

theorem bigEndian_length (count n : Nat) : (bigEndian count n).length = count := by
  simp [bigEndian, Positional.places_length]

end Bytes
end AddressPool
