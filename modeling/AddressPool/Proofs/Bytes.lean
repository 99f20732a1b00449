import AddressPool.Bytes
import AddressPool.Ip
import Mathlib.Algebra.Group.Nat.Defs
import Mathlib.Data.List.DropRight
import Mathlib.Data.List.Induction

namespace AddressPool

namespace Positional

theorem value_places (base count n : Nat) :
    value base (places base count n) = n % base ^ count := by
  induction count generalizing n with
  | zero => simp [places, value, Nat.mod_one]
  | succ count ih =>
    rw [places, value_append, ih, Nat.pow_succ, Nat.mul_comm (base ^ count) base, Nat.mod_mul]
    rw [Nat.mul_comm, Nat.add_comm]

theorem places_lt {base count n digit : Nat} (positive : 0 < base)
    (member : digit ∈ places base count n) : digit < base := by
  induction count generalizing n with
  | zero => cases member
  | succ count ih =>
    rw [places] at member
    rcases List.mem_append.mp member with higher | last
    · exact ih higher
    · rw [List.mem_singleton.mp last]
      exact Nat.mod_lt n positive

theorem places_value {base : Nat} (digits : List Nat) (fit : ∀ digit ∈ digits, digit < base) :
    places base digits.length (value base digits) = digits := by
  induction digits using List.reverseRecOn with
  | nil => rfl
  | append_singleton digits last ih =>
    have lastFits : last < base := fit last (by simp)
    have positive : 0 < base := Nat.zero_lt_of_lt lastFits
    have front : (value base digits * base + last) / base = value base digits := by
      rw [Nat.mul_comm, Nat.mul_add_div positive, Nat.div_eq_of_lt lastFits, Nat.add_zero]
    have back : (value base digits * base + last) % base = last := by
      rw [Nat.mul_comm, Nat.mul_add_mod, Nat.mod_eq_of_lt lastFits]
    rw [List.length_append, List.length_singleton, places, value_append, front, back,
      ih fun digit member => fit digit (List.mem_append_left _ member)]

theorem value_zeros (base count : Nat) (digits : List Nat) :
    value base (List.replicate count 0 ++ digits) = value base digits := by
  have start : (List.replicate count 0).foldl (fun n digit => n * base + digit) 0 = 0 := by
    induction count with
    | zero => rfl
    | succ count ih => simpa [List.replicate_succ] using ih
  unfold value
  rw [List.foldl_append, start]

end Positional

namespace Bytes

-- Octets and numbers name each other: a number survives as far as its octets reach, and octets
-- survive in full.

theorem toNat_lt (bytes : Bytes) : ∀ digit ∈ bytes.map UInt8.toNat, digit < 256 := by
  intro digit member
  obtain ⟨octet, -, rfl⟩ := List.mem_map.mp member
  exact octet.toNat_lt

theorem ofBigEndian_bigEndian (count n : Nat) :
    ofBigEndian (bigEndian count n) = n % 256 ^ count := by
  have kept : ∀ digit ∈ Positional.places 256 count n,
      (UInt8.toNat ∘ UInt8.ofNat) digit = id digit := by
    intro digit member
    have small : digit < 256 := Positional.places_lt (by decide) member
    simpa using small
  rw [ofBigEndian, bigEndian, List.map_map, List.map_congr_left kept, List.map_id,
    Positional.value_places]

theorem bigEndian_ofBigEndian (bytes : Bytes) :
    bigEndian bytes.length (ofBigEndian bytes) = bytes := by
  have digits := Positional.places_value (bytes.map UInt8.toNat) bytes.toNat_lt
  have kept : ∀ octet ∈ bytes, (UInt8.ofNat ∘ UInt8.toNat) octet = id octet :=
    fun octet _ => UInt8.ofNat_toNat
  rw [List.length_map] at digits
  rw [bigEndian, ofBigEndian, digits, List.map_map, List.map_congr_left kept, List.map_id]

theorem ofLittleEndian_littleEndian (count n : Nat) :
    ofLittleEndian (littleEndian count n) = n % 256 ^ count := by
  rw [ofLittleEndian, littleEndian, List.reverse_reverse, ofBigEndian_bigEndian]

theorem littleEndian_ofLittleEndian (bytes : Bytes) :
    littleEndian bytes.length (ofLittleEndian bytes) = bytes := by
  have back := bigEndian_ofBigEndian bytes.reverse
  rw [List.length_reverse] at back
  rw [littleEndian, ofLittleEndian, back, List.reverse_reverse]

theorem littleEndian_length (count n : Nat) : (littleEndian count n).length = count := by
  rw [littleEndian, List.length_reverse, bigEndian_length]

theorem port_bigEndian (port : UInt16) :
    UInt16.ofNat (ofBigEndian (bigEndian 2 port.toNat)) = port := by
  have small : port.toNat < 256 ^ 2 := port.toNat_lt
  rw [ofBigEndian_bigEndian, Nat.mod_eq_of_lt small, UInt16.ofNat_toNat]

theorem bigEndian_port {octets : Bytes} (pair : octets.length = 2) :
    bigEndian 2 (UInt16.ofNat (ofBigEndian octets)).toNat = octets := by
  have back := bigEndian_ofBigEndian octets
  have small : ofBigEndian octets < 256 ^ 2 := by
    rw [← back, pair, ofBigEndian_bigEndian]
    exact Nat.mod_lt _ (by decide)
  rw [UInt16.toNat_ofNat_of_lt' small, ← pair, back]

end Bytes

namespace Ip

theorem count_octets (version : Version) : 256 ^ version.octetCount = version.count := by
  cases version <;> rfl

theorem octetCount_pos (version : Version) : 0 < version.octetCount := by
  cases version <;> decide

theorem wrap_octets (host : Ip) : wrap host.version (Bytes.ofBigEndian host.octets) = host := by
  rw [octets, Bytes.ofBigEndian_bigEndian, count_octets, Nat.mod_eq_of_lt host.value_lt, wrap_value]

theorem octets_injective {host other : Ip} (versions : host.version = other.version)
    (same : host.octets = other.octets) : host = other := by
  calc
    host = wrap host.version (Bytes.ofBigEndian host.octets) := host.wrap_octets.symm
    _ = wrap other.version (Bytes.ofBigEndian other.octets) := by rw [versions, same]
    _ = other := other.wrap_octets

theorem octets_wrap {version : Version} {octets : Bytes}
    (whole : octets.length = version.octetCount) :
    (wrap version (Bytes.ofBigEndian octets)).octets = octets := by
  have back := Bytes.bigEndian_ofBigEndian octets
  have small : Bytes.ofBigEndian octets < version.count := by
    rw [← back, Bytes.ofBigEndian_bigEndian, whole, count_octets]
    exact Nat.mod_lt _ version.count_pos
  change Bytes.bigEndian version.octetCount (Bytes.ofBigEndian octets % version.count) = octets
  rw [Nat.mod_eq_of_lt small, ← whole, back]

end Ip

section Padding

structure Trims {α : Type} (fill : α) (items kept : List α) : Prop where
  padded : ∃ count, items = kept ++ List.replicate count fill
  ends : kept.getLast? ≠ some fill

def AgreePadded {α : Type} (fill : α) (items others : List α) : Prop :=
  ∃ more fewer, items ++ List.replicate more fill = others ++ List.replicate fewer fill

variable {α : Type} [DecidableEq α] (fill : α)

-- A list without the fill at its end. Names of sockets are padded with zeros, and texts can end in
-- characters that stand for nothing else.
def unpadded (items : List α) : List α := items.rdropWhile (· == fill)

theorem unpadded_fill (items : List α) : unpadded fill (items ++ [fill]) = unpadded fill items := by
  rw [unpadded, List.rdropWhile_concat, if_pos (beq_self_eq_true fill)]
  rfl

theorem unpadded_other {last : α} (other : last ≠ fill) (items : List α) :
    unpadded fill (items ++ [last]) = items ++ [last] := by
  rw [unpadded, List.rdropWhile_concat, if_neg (by simpa using other)]

theorem unpadded_append (items : List α) (count : Nat) :
    unpadded fill (items ++ List.replicate count fill) = unpadded fill items := by
  induction count with
  | zero => rw [List.replicate_zero, List.append_nil]
  | succ count ih => rw [List.replicate_succ', ← List.append_assoc, unpadded_fill, ih]

theorem unpadded_cons (item : α) (items : List α) :
    unpadded fill (item :: items) =
      if unpadded fill items = [] ∧ item = fill then [] else item :: unpadded fill items := by
  induction items using List.reverseRecOn with
  | nil =>
    by_cases same : item = fill
    · rw [if_pos ⟨rfl, same⟩, same]
      exact unpadded_fill fill []
    · rw [if_neg fun both => same both.2]
      exact unpadded_other fill same []
  | append_singleton items last ih =>
    by_cases same : last = fill
    · rw [same, ← List.cons_append, unpadded_fill, unpadded_fill, ih]
    · rw [← List.cons_append, unpadded_other fill same, unpadded_other fill same, if_neg (by simp)]
      rfl

theorem exists_padding (items : List α) :
    ∃ count, items = unpadded fill items ++ List.replicate count fill := by
  induction items using List.reverseRecOn with
  | nil => exact ⟨0, rfl⟩
  | append_singleton items last ih =>
    by_cases same : last = fill
    · subst same
      obtain ⟨count, shape⟩ := ih
      refine ⟨count + 1, ?_⟩
      rw [unpadded_fill, List.replicate_succ', ← List.append_assoc, ← shape]
    · exact ⟨0, by rw [unpadded_other fill same, List.replicate_zero, List.append_nil]⟩

theorem unpadded_ends (items : List α) : (unpadded fill items).getLast? ≠ some fill := by
  induction items using List.reverseRecOn with
  | nil => exact nofun
  | append_singleton items last ih =>
    by_cases same : last = fill
    · rwa [same, unpadded_fill]
    · rw [unpadded_other fill same, List.getLast?_concat]
      exact fun found => same (Option.some.inj found)

section
variable {fill} {items others kept : List α}

theorem unpadded_eq_self (ends : items.getLast? ≠ some fill) : unpadded fill items = items := by
  rcases List.eq_nil_or_concat' items with rfl | ⟨front, last, rfl⟩
  · rfl
  · rw [List.getLast?_concat] at ends
    exact unpadded_other fill (fun same => ends (congrArg some same)) front

theorem unpadded_eq_iff : unpadded fill items = kept ↔ Trims fill items kept := by
  constructor
  · rintro rfl
    exact ⟨exists_padding fill items, unpadded_ends fill items⟩
  · intro trims
    obtain ⟨count, shape⟩ := trims.padded
    rw [shape, unpadded_append, unpadded_eq_self trims.ends]

theorem agreePadded_iff : AgreePadded fill items others ↔
    unpadded fill items = unpadded fill others := by
  constructor
  · intro agree
    obtain ⟨more, fewer, padded⟩ := agree
    have trimmed := congrArg (unpadded fill) padded
    rwa [unpadded_append, unpadded_append] at trimmed
  · intro same
    obtain ⟨fewer, shape⟩ := exists_padding fill items
    obtain ⟨more, shape'⟩ := exists_padding fill others
    refine ⟨more, fewer, ?_⟩
    -- Each list gets the padding that the other one had.
    calc items ++ List.replicate more fill
        = unpadded fill items ++ List.replicate fewer fill ++ List.replicate more fill := by
          rw [← shape]
      _ = unpadded fill others ++ List.replicate more fill ++ List.replicate fewer fill := by
          rw [same, List.append_assoc, List.append_assoc, List.replicate_append_replicate,
            List.replicate_append_replicate, Nat.add_comm]
      _ = others ++ List.replicate fewer fill := by rw [← shape']

end

end Padding

-- Lists are compared item by item, and one that ends is in front of one that goes on.
section Lists

variable {α : Type} [Ord α]

theorem compare_append {front other : List α} (same : front.length = other.length)
    (back rest : List α) :
    compare (front ++ back) (other ++ rest) =
      (compare front other).then (compare back rest) := by
  induction front generalizing other with
  | nil =>
    cases List.eq_nil_of_length_eq_zero same.symm
    rfl
  | cons item front ih =>
    cases other with
    | nil => cases same
    | cons first other =>
      have later := ih (Nat.succ.inj same)
      simp only [List.cons_append, List.compare_cons_cons, later, Ordering.then_assoc]

theorem compare_singleton (item other : α) : compare [item] [other] = compare item other := by
  rw [List.compare_cons_cons, List.compare_nil_nil, Ordering.then_eq]

theorem compare_prefix [Std.ReflOrd α] {front whole : List α} (begins : front <+: whole)
    (proper : front ≠ whole) : compare front whole = .lt := by
  obtain ⟨rest, rfl⟩ := begins
  induction front with
  | nil =>
    cases rest with
    | nil => exact absurd rfl proper
    | cons item rest => exact List.compare_nil_cons
  | cons item front ih =>
    have later := ih fun same => proper (congrArg (item :: ·) same)
    rw [List.cons_append, List.compare_cons_cons, Std.compare_self, later]
    rfl

variable [DecidableEq α] [Std.LawfulEqOrd α] {fill : α}

theorem compare_fill (least : ∀ item, item ≠ fill → compare fill item = .lt) {item : α}
    {items : List α} (other : ¬(items = [] ∧ item = fill)) :
    (compare fill item).then (compare [] items) = .lt := by
  by_cases same : item = fill
  · cases items with
    | nil => exact absurd ⟨rfl, same⟩ other
    | cons first rest =>
      rw [same, Std.compare_self]
      exact List.compare_nil_cons
  · rw [least item same]
    rfl

theorem compare_unpadded [Std.TransOrd α]
    (least : ∀ item, item ≠ fill → compare fill item = .lt) {items others : List α}
    (same : items.length = others.length) :
    compare (unpadded fill items) (unpadded fill others) = compare items others := by
  induction items generalizing others with
  | nil =>
    cases List.eq_nil_of_length_eq_zero same.symm
    rfl
  | cons item items ih =>
    cases others with
    | nil => cases same
    | cons other others =>
      have later := ih (Nat.succ.inj same)
      rw [unpadded_cons, unpadded_cons, List.compare_cons_cons, ← later]
      by_cases here : unpadded fill items = [] ∧ item = fill <;>
        by_cases there : unpadded fill others = [] ∧ other = fill
      · rw [if_pos here, if_pos there, here.1, here.2, there.1, there.2, Std.compare_self,
          Std.compare_self]
        rfl
      · rw [if_pos here, if_neg there, here.1, here.2, compare_fill least there]
        exact List.compare_nil_cons
      · have behind : (compare item fill).then (compare (unpadded fill items) []) = .gt := by
          rw [Std.OrientedOrd.eq_swap (a := item), Std.OrientedOrd.eq_swap (b := []),
            ← Ordering.swap_then, compare_fill least here]
          rfl
        rw [if_neg here, if_pos there, there.1, there.2, behind]
        exact List.compare_cons_nil
      · rw [if_neg here, if_neg there, List.compare_cons_cons]

end Lists

theorem compare_div_mod (base n m : Nat) :
    (compare (n / base) (m / base)).then (compare (n % base) (m % base)) = compare n m := by
  rcases Nat.lt_trichotomy (n / base) (m / base) with below | same | above
  · rw [Nat.compare_eq_lt.mpr below, Nat.compare_eq_lt.mpr (Nat.lt_of_div_lt_div below)]
    rfl
  · have here := Nat.div_add_mod n base
    have there := Nat.div_add_mod m base
    rw [same] at here
    have less : n % base < m % base ↔ n < m := by omega
    have more : m % base < n % base ↔ m < n := by omega
    rw [Nat.compare_eq_eq.mpr same, Nat.compare_eq_ite_lt, Nat.compare_eq_ite_lt]
    simp only [Ordering.eq_then, less, more]
  · rw [Nat.compare_eq_gt.mpr above, Nat.compare_eq_gt.mpr (Nat.lt_of_div_lt_div above)]
    rfl

theorem compare_octet {n m : Nat} (small : n < 256) (other : m < 256) :
    compare (UInt8.ofNat n) (UInt8.ofNat m) = compare n m := by
  rw [UInt8.compare_eq_toNat_compare_toNat, UInt8.toNat_ofNat_of_lt' small,
    UInt8.toNat_ofNat_of_lt' other]

namespace Bytes

theorem bigEndian_succ (count n : Nat) :
    bigEndian (count + 1) n = bigEndian count (n / 256) ++ [UInt8.ofNat (n % 256)] := by
  rw [bigEndian, Positional.places, List.map_append]
  rfl

theorem compare_bigEndian {count n m : Nat} (fits : n < 256 ^ count) (other : m < 256 ^ count) :
    compare (bigEndian count n) (bigEndian count m) = compare n m := by
  induction count generalizing n m with
  | zero =>
    obtain rfl : n = 0 := by omega
    obtain rfl : m = 0 := by omega
    rfl
  | succ count ih =>
    have higher := ih (Nat.div_lt_of_lt_mul (Nat.pow_succ' ▸ fits))
      (Nat.div_lt_of_lt_mul (Nat.pow_succ' ▸ other))
    have lengths : (bigEndian count (n / 256)).length = (bigEndian count (m / 256)).length := by
      rw [bigEndian_length, bigEndian_length]
    have last := compare_octet (Nat.mod_lt n (by decide)) (Nat.mod_lt m (by decide))
    rw [bigEndian_succ, bigEndian_succ, compare_append lengths, compare_singleton, higher, last,
      compare_div_mod]

end Bytes
end AddressPool
