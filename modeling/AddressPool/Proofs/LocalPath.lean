import AddressPool.Address.Basic
import AddressPool.Proofs.Bytes
import Mathlib.Data.List.TakeWhile

namespace AddressPool.LocalPath

-- A name falls into the octets in front of its first NUL and what begins with that NUL.

def plain (path : LocalPath) : Bytes := path.raw.takeWhile (· != 0)

def behind (path : LocalPath) : Bytes := path.raw.dropWhile (· != 0)

def cut (path : LocalPath) : LocalPath := ofBytes path.plain

def Trailed (path : LocalPath) : Prop :=
  path.isAbstract = false ∧ ∃ octet ∈ path.behind, octet ≠ 0

theorem plain_length (path : LocalPath) : path.plain.length = path.plainLength := rfl

theorem plain_append_behind (path : LocalPath) : path.plain ++ path.behind = path.raw :=
  List.takeWhile_append_dropWhile

theorem behind_length (path : LocalPath) :
    path.behind.length = capacity - path.plain.length := by
  have whole := congrArg List.length path.plain_append_behind
  rw [List.length_append, path.raw_length] at whole
  omega

theorem plain_length_le (path : LocalPath) : path.plain.length ≤ capacity := by
  rw [← path.raw_length, ← path.plain_append_behind, List.length_append]
  exact Nat.le_add_right _ _

theorem mem_plain {path : LocalPath} {octet : UInt8} (member : octet ∈ path.plain) :
    octet ≠ 0 := by
  have kept := List.mem_takeWhile_imp member
  simpa using kept

theorem behind_eq (path : LocalPath) : path.behind = [] ∨ ∃ rest, path.behind = 0 :: rest := by
  cases rest : path.behind with
  | nil => exact .inl rfl
  | cons octet later =>
    have stopped := List.head?_dropWhile_not (· != 0) path.raw
    have first : (path.raw.dropWhile (· != 0)).head? = some octet := by
      change path.behind.head? = some octet
      rw [rest]
      rfl
    rw [first] at stopped
    have zero : octet = 0 := by simpa using stopped
    exact .inr ⟨later, by rw [zero]⟩

theorem isAbstract_iff {path : LocalPath} : path.isAbstract = true ↔ path.plain = [] := by
  unfold isAbstract plain
  cases whole : path.raw with
  | nil =>
    have length := path.raw_length
    rw [whole] at length
    cases length
  | cons octet rest => simp [List.takeWhile_cons]

theorem isAbstract_of_plain {path other : LocalPath} (same : path.plain = other.plain) :
    path.isAbstract = other.isAbstract := by
  rw [Bool.eq_iff_iff, isAbstract_iff, isAbstract_iff, same]

theorem ofBytes_raw {bytes : Bytes} (fits : bytes.length ≤ capacity) :
    (ofBytes bytes).raw = bytes ++ List.replicate (capacity - bytes.length) 0 := by
  simp only [ofBytes, List.take_of_length_le fits]

theorem ofBytes_whole (path : LocalPath) : ofBytes path.raw = path := by
  ext1
  rw [ofBytes_raw (Nat.le_of_eq path.raw_length), path.raw_length, Nat.sub_self,
    List.replicate_zero, List.append_nil]

theorem ofBytes_padded (bytes : Bytes) (count : Nat) :
    ofBytes (bytes ++ List.replicate count 0) = ofBytes bytes := by
  have places : min (capacity - bytes.length) count + (capacity - (bytes.length + count)) =
      capacity - bytes.length := by omega
  ext1
  simp only [ofBytes, List.take_append, List.take_replicate, List.length_append,
    List.length_replicate, List.append_assoc, List.replicate_append_replicate, places]

theorem bytes_eq (path : LocalPath) : path.bytes = unpadded 0 path.raw := rfl

theorem bytes_ofBytes_take (octets : Bytes) :
    (ofBytes octets).bytes = unpadded 0 (octets.take capacity) :=
  unpadded_append 0 (octets.take capacity) (capacity - octets.length)

theorem bytes_ofBytes {octets : Bytes} (fits : octets.length ≤ capacity) :
    (ofBytes octets).bytes = unpadded 0 octets := by
  rw [bytes_ofBytes_take, List.take_of_length_le fits]

theorem ofBytes_unpadded (octets : Bytes) : ofBytes (unpadded 0 octets) = ofBytes octets := by
  obtain ⟨count, shape⟩ := exists_padding 0 octets
  have padded := ofBytes_padded (unpadded 0 octets) count
  rw [← shape] at padded
  exact padded.symm

theorem stops_iff (octets : Bytes) :
    (octets.takeWhile (· != 0)).length < octets.length ↔ 0 ∈ octets := by
  induction octets with
  | nil => simp
  | cons first rest ih =>
    by_cases zero : first = 0
    · simp [zero]
    · simp [zero, ih, Ne.symm zero]

theorem plain_padded {bytes : Bytes} (fits : bytes.length ≤ capacity) :
    (ofBytes bytes).plain = bytes.takeWhile (· != 0) := by
  have padding :
      (List.replicate (capacity - bytes.length) (0 : UInt8)).takeWhile (· != 0) = [] := by
    simp
  rw [plain, ofBytes_raw fits, List.takeWhile_append, padding, List.append_nil]
  split
  · rename_i whole
    exact ((List.takeWhile_prefix _).eq_of_length whole).symm
  · rfl

theorem ofBytes_append_iff {octets more : Bytes} (fits : (octets ++ more).length ≤ capacity) :
    ofBytes (octets ++ more) = ofBytes octets ↔ ∀ octet ∈ more, octet = 0 := by
  constructor
  · intro same
    rw [LocalPath.ext_iff, ofBytes_raw fits, List.append_assoc, ofBytes_raw (by
      rw [List.length_append] at fits
      omega), List.append_cancel_left_eq] at same
    intro octet member
    exact List.eq_of_mem_replicate (same ▸ List.mem_append_left _ member)
  · intro zeros
    rw [List.eq_replicate_of_mem zeros]
    exact ofBytes_padded octets more.length

theorem plain_append {octets more : Bytes} (fits : (octets ++ more).length ≤ capacity)
    (closed : 0 ∈ octets) : (ofBytes (octets ++ more)).plain = (ofBytes octets).plain := by
  have stops := (stops_iff octets).mpr closed
  rw [plain_padded fits, plain_padded (by rw [List.length_append] at fits; omega),
    List.takeWhile_append, if_neg (Nat.ne_of_lt stops)]

theorem plain_ofBytes {bytes : Bytes} (fits : bytes.length ≤ capacity)
    (noNul : ∀ octet ∈ bytes, octet ≠ 0) : (ofBytes bytes).plain = bytes := by
  rw [plain_padded fits]
  apply List.takeWhile_eq_self_iff.mpr
  simpa using noNul

theorem plain_cut (path : LocalPath) : path.cut.plain = path.plain :=
  plain_ofBytes path.plain_length_le fun _ => mem_plain

theorem cut_eq_iff {path : LocalPath} : path.cut = path ↔ ∀ octet ∈ path.behind, octet = 0 := by
  have padding : path.cut.raw = path.plain ++ List.replicate path.behind.length 0 := by
    rw [behind_length]
    exact ofBytes_raw path.plain_length_le
  rw [LocalPath.ext_iff, padding, ← path.plain_append_behind, List.append_cancel_left_eq, eq_comm,
    List.eq_replicate_iff]
  exact and_iff_right rfl

theorem ofBytes_take (path : LocalPath) :
    ofBytes (path.raw.take (path.plain.length + 1)) = path.cut := by
  rw [← path.plain_append_behind, List.take_length_add_append]
  rcases path.behind_eq with none | ⟨rest, shape⟩
  · rw [none, List.take_nil, List.append_nil]
    rfl
  · rw [shape]
    exact ofBytes_padded path.plain 1

-- A name is its octets and padding behind them. Octets that it is made from come to the same name
-- as others if they differ only past the capacity or in the NULs at their end.

theorem ofBytes_bytes (path : LocalPath) : ofBytes path.bytes = path := by
  rw [bytes_eq, ofBytes_unpadded, ofBytes_whole]

theorem bytes_length_le (path : LocalPath) : path.bytes.length ≤ capacity := by
  rw [← path.raw_length]
  exact (List.rdropWhile_prefix (· == 0) path.raw).length_le

theorem raw_eq_padded (path : LocalPath) :
    path.raw = path.bytes ++ List.replicate (capacity - path.bytes.length) 0 := by
  rw [← ofBytes_raw path.bytes_length_le, ofBytes_bytes]

theorem bytes_inj {path other : LocalPath} : path.bytes = other.bytes ↔ path = other := by
  constructor
  · intro same
    rw [← path.ofBytes_bytes, same, ofBytes_bytes]
  · exact congrArg bytes

theorem ofBytes_eq_iff {octets others : Bytes} : ofBytes octets = ofBytes others ↔
    AgreePadded 0 (octets.take capacity) (others.take capacity) := by
  rw [← bytes_inj, bytes_ofBytes_take, bytes_ofBytes_take, agreePadded_iff]

-- The first NUL is looked for from the front and the padding from the back. They meet where the
-- octets of a name hold no NUL, and otherwise the first NUL comes sooner.

theorem plainLength_eq (path : LocalPath) :
    path.plainLength = (path.raw.idxOf? 0).getD capacity := by
  rw [← plain_length]
  have parts := path.plain_append_behind
  rcases path.behind_eq with none | ⟨rest, shape⟩
  · rw [none, List.append_nil] at parts
    have absent : path.raw.idxOf? 0 = Option.none := by
      rw [List.idxOf?_eq_none_iff, ← parts]
      exact fun member => mem_plain member rfl
    rw [absent, parts, path.raw_length]
    rfl
  · rw [shape] at parts
    have first : path.raw.idxOf? 0 = some path.plain.length := by
      rw [← parts, List.idxOf?_eq_some_iff]
      refine ⟨by simp, by simp, ?_⟩
      intro earlier before
      rw [List.getElem_append_left before]
      exact mem_plain (List.getElem_mem before)
    rw [first]
    rfl

theorem plain_eq_takeWhile (path : LocalPath) : path.plain = path.bytes.takeWhile (· != 0) := by
  rw [← plain_padded path.bytes_length_le, ofBytes_bytes]

theorem plainLength_le (path : LocalPath) : path.plainLength ≤ path.bytes.length := by
  rw [← plain_length, plain_eq_takeWhile]
  exact (List.takeWhile_prefix _).length_le

theorem plainLength_eq_iff (path : LocalPath) :
    path.plainLength = path.bytes.length ↔ 0 ∉ path.bytes := by
  have most := path.plainLength_le
  have stops := stops_iff path.bytes
  rw [← plain_eq_takeWhile, plain_length] at stops
  rw [← stops]
  omega

structure Keeps (octets : Bytes) (path : LocalPath) : Prop where
  bytes_iff : ∀ kept, path.bytes = kept ↔ Trims 0 (octets.take capacity) kept
  raw_eq : path.raw = path.bytes ++ List.replicate (capacity - path.bytes.length) 0
  plainLength_eq : path.plainLength = (path.raw.idxOf? 0).getD capacity
  plainLength_le : path.plainLength ≤ path.bytes.length
  plainLength_eq_iff : path.plainLength = path.bytes.length ↔ 0 ∉ path.bytes

theorem keeps_ofBytes (octets : Bytes) : Keeps octets (ofBytes octets) where
  bytes_iff := by
    intro kept
    rw [bytes_ofBytes_take, unpadded_eq_iff]
  raw_eq := raw_eq_padded _
  plainLength_eq := plainLength_eq _
  plainLength_le := plainLength_le _
  plainLength_eq_iff := plainLength_eq_iff _

-- The octets of a name stand for it: it is made of them again, no other name has them, and what
-- they leave out of other octets is all that makes no difference.
theorem bytes_canonical :
    (∀ octets, Keeps octets (ofBytes octets)) ∧
      (∀ path, ofBytes (bytes path) = path) ∧
        (∀ path other, path = other ↔ bytes path = bytes other) ∧
          ∀ octets others, ofBytes octets = ofBytes others ↔
            AgreePadded 0 (octets.take capacity) (others.take capacity) := by
  refine ⟨keeps_ofBytes, ofBytes_bytes, ?_, ?_⟩
  · intro path other
    exact bytes_inj.symm
  · intro octets others
    exact ofBytes_eq_iff

example : (ofBytes (List.replicate 107 120 ++ [0, 98])).bytes = List.replicate 107 120 := by
  decide +kernel

end AddressPool.LocalPath
