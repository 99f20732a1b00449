import AddressPool.Ip

namespace AddressPool

-- A network as it is written: an address in it and the number of leading bits that all its
-- addresses share.
@[ext] structure Block where
  host : Ip
  maskSize : Nat
  maskSize_le : maskSize ≤ host.version.width
deriving DecidableEq

namespace Block

def version (block : Block) : Version := block.host.version

def hostBits (block : Block) : Nat := block.version.width - block.maskSize

def hostMask (block : Block) : Nat := (1 <<< 128 - 1) >>> (128 - block.hostBits)

def cleared (block : Block) (value : Nat) : Nat := value - (value &&& block.hostMask)

def base (block : Block) : Nat := block.cleared block.host.value

def last (block : Block) : Nat := block.base ||| block.hostMask

def contains (block : Block) (ip : Ip) : Bool :=
  ip.version = block.version && block.cleared ip.value == block.base

def ipAt (block : Block) (value : Nat) : Ip := Ip.wrap block.version value

def truncated (block : Block) : Block := ⟨block.ipAt block.base, block.maskSize, block.maskSize_le⟩

-- Networks are the same if they have the same addresses, whichever host they are written
-- with. They are ordered by version, first address and mask, so a network comes before its
-- parts.
protected def compare (a b : Block) : Ordering :=
  let rank : Version → Nat := fun | .v4 => 4 | .v6 => 6
  (Ord.compare (rank a.version) (rank b.version)).then <|
    (Ord.compare a.base b.base).then (Ord.compare a.maskSize b.maskSize)

def chars (block : Block) : List Char := block.host.chars ++ '/' :: Text.numeral block.maskSize

def text (block : Block) : String := String.ofList block.chars

def readMaskSize (version : Version) (text : List Char) : Option Nat := do
  let digits := match version with | .v4 => 2 | .v6 => 3
  let mask ← Text.number? text
  if text.length ≤ digits then some mask else none

def ofHost? (host : Ip) (maskSize : Nat) : Option Block :=
  if fits : maskSize ≤ host.version.width then some ⟨host, maskSize, fits⟩ else none

-- Configuration writes networks in the lenient grammar, always with a mask.
def parse? (text : String) : Option Block := do
  let (host, mask) ← Text.cut? '/' text.toList
  let host ← Ip.read .lenient host
  let maskSize ← readMaskSize host.version mask
  ofHost? host maskSize

end Block
end AddressPool
