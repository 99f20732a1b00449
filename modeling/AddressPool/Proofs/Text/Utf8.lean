import AddressPool.Proofs.Bytes
import AddressPool.Text.Hex

namespace AddressPool.Text

-- Characters and the octets they are written in. What is written is read back as it was, whatever
-- stands behind it, so a text survives its octets.

theorem toNat_octet {n : Nat} (small : n < 256) : (UInt8.ofNat n).toNat = n :=
  UInt8.toNat_ofNat_of_lt' small

theorem ofNat_octet {c : Char} (small : c.toNat < 128) :
    Char.ofNat (UInt8.ofNat c.toNat).toNat = c := by
  rw [toNat_octet (by omega), Char.ofNat_toNat]

theorem utf8EncodeChar_small {c : Char} (small : c.toNat < 128) :
    String.utf8EncodeChar c = [UInt8.ofNat c.toNat] :=
  if_pos (Nat.le_of_lt_succ small)

theorem utf8EncodeChar_cases (c : Char) :
    c.toNat < 128 ∧ String.utf8EncodeChar c = [UInt8.ofNat c.toNat] ∨
      ∃ first rest, String.utf8EncodeChar c = first :: rest ∧ 128 ≤ first.toNat := by
  by_cases small : c.toNat < 128
  · exact .inl ⟨small, utf8EncodeChar_small small⟩
  · right
    have large : ¬c.val.toNat ≤ 127 := fun fits => small (Nat.lt_succ_of_le fits)
    unfold String.utf8EncodeChar
    simp only [if_neg large]
    split
    · exact ⟨_, _, rfl, by rw [UInt8.toNat_ofNat']; omega⟩
    · split
      · exact ⟨_, _, rfl, by rw [UInt8.toNat_ofNat']; omega⟩
      · exact ⟨_, _, rfl, by rw [UInt8.toNat_ofNat']; omega⟩

theorem decodeFrom_cons (state : Option Partial) (octet : UInt8) (rest : Bytes) :
    decodeFrom state (octet :: rest) =
      (advance state octet).1 ++ decodeFrom (advance state octet).2 rest := by
  cases state <;> rfl

def Completes (state : Option Partial) (octets : Bytes) (c : Char) : Prop :=
  ∀ rest, decodeFrom state (octets ++ rest) = c :: decodeFrom none rest

theorem Completes.lead {octet : UInt8} {octets : Bytes} {part : Partial} {c : Char}
    (first : begin octet = ([], some part)) (later : Completes (some part) octets c) :
    Completes none (octet :: octets) c := by
  intro rest
  rw [List.cons_append, decodeFrom_cons, advance, first]
  exact later rest

def Continues (part : Partial) (n : Nat) : Prop :=
  part.low.toNat ≤ n % 64 + 128 ∧ n % 64 + 128 ≤ part.high.toNat

theorem continues_freely (owed bits n : Nat) : Continues ⟨owed, 0x80, 0xbf, bits⟩ n := by
  constructor
  · change 128 ≤ n % 64 + 128
    omega
  · change n % 64 + 128 ≤ 191
    omega

theorem advance_continued {part : Partial} {n : Nat} (continues : Continues part n) :
    advance (some part) (UInt8.ofNat (n % 64 + 128)) =
      if part.owed ≤ 1 then ([Char.ofNat (part.bits * 64 + n % 64)], none)
      else ([], some ⟨part.owed - 1, 0x80, 0xbf, part.bits * 64 + n % 64⟩) := by
  have kept : (UInt8.ofNat (n % 64 + 128)).toNat = n % 64 + 128 := toNat_octet (by omega)
  have bits : (n % 64 + 128) % 64 = n % 64 := by omega
  have inside : part.low ≤ UInt8.ofNat (n % 64 + 128) ∧ UInt8.ofNat (n % 64 + 128) ≤ part.high := by
    rw [UInt8.le_iff_toNat_le, UInt8.le_iff_toNat_le, kept]
    exact continues
  unfold advance
  simp only [if_pos inside, kept, bits]

theorem Completes.last {part : Partial} {n : Nat} (continues : Continues part n)
    (owed : part.owed ≤ 1) :
    Completes (some part) [UInt8.ofNat (n % 64 + 128)] (Char.ofNat (part.bits * 64 + n % 64)) := by
  intro rest
  rw [List.singleton_append, decodeFrom_cons, advance_continued continues, if_pos owed]
  rfl

theorem Completes.more {part : Partial} {n : Nat} {octets : Bytes} {c : Char}
    (continues : Continues part n) (owed : ¬part.owed ≤ 1)
    (later : Completes (some ⟨part.owed - 1, 0x80, 0xbf, part.bits * 64 + n % 64⟩) octets c) :
    Completes (some part) (UInt8.ofNat (n % 64 + 128) :: octets) c := by
  intro rest
  rw [List.cons_append, decodeFrom_cons, advance_continued continues, if_neg owed]
  exact later rest

def afterTwo (lead : Nat) : Partial := ⟨1, 0x80, 0xbf, lead % 0x20⟩

def afterThree (lead : Nat) : Partial :=
  ⟨2, if lead = 0xe0 then 0xa0 else 0x80, if lead = 0xed then 0x9f else 0xbf, lead % 0x10⟩

def afterFour (lead : Nat) : Partial :=
  ⟨3, if lead = 0xf0 then 0x90 else 0x80, if lead = 0xf4 then 0x8f else 0xbf, lead % 0x8⟩

theorem begin_two {lead : Nat} (least : 0xc2 ≤ lead) (most : lead ≤ 0xdf) :
    begin (UInt8.ofNat lead) = ([], some (afterTwo lead)) := by
  unfold begin
  simp only [toNat_octet (show lead < 256 by omega)]
  rw [if_neg (by omega), if_pos ⟨least, most⟩]
  rfl

theorem begin_three {lead : Nat} (least : 0xe0 ≤ lead) (most : lead ≤ 0xef) :
    begin (UInt8.ofNat lead) = ([], some (afterThree lead)) := by
  by_cases overlong : lead = 0xe0
  · subst overlong
    rfl
  by_cases surrogate : lead = 0xed
  · subst surrogate
    rfl
  unfold begin afterThree
  simp only [toNat_octet (show lead < 256 by omega), if_neg overlong, if_neg surrogate]
  rw [if_neg (by omega), if_neg (by omega), if_pos ⟨by omega, most⟩]

theorem begin_four {lead : Nat} (least : 0xf0 ≤ lead) (most : lead ≤ 0xf4) :
    begin (UInt8.ofNat lead) = ([], some (afterFour lead)) := by
  by_cases overlong : lead = 0xf0
  · subst overlong
    rfl
  by_cases beyond : lead = 0xf4
  · subst beyond
    rfl
  unfold begin afterFour
  simp only [toNat_octet (show lead < 256 by omega), if_neg overlong, if_neg beyond]
  rw [if_neg (by omega), if_neg (by omega), if_neg (by omega), if_neg (by omega),
    if_neg (by omega), if_pos (by omega)]

theorem completes_two {n : Nat} (least : 0x80 ≤ n) (most : n ≤ 0x7ff) :
    Completes none [UInt8.ofNat (n / 64 % 32 + 192), UInt8.ofNat (n % 64 + 128)]
      (Char.ofNat n) := by
  have lead : begin (UInt8.ofNat (n / 64 % 32 + 192)) = ([], some (afterTwo _)) :=
    begin_two (by omega) (by omega)
  have bits : (n / 64 % 32 + 192) % 32 * 64 + n % 64 = n := by omega
  have ended := Completes.last (continues_freely 1 ((n / 64 % 32 + 192) % 32) n) (Nat.le_refl 1)
  rw [bits] at ended
  exact .lead lead ended

-- The second octet is bounded further where the first one would allow an overlong form, a surrogate
-- or a number past the last character.
theorem continues_bounded {lead first last n : Nat} {low high : UInt8} (owed bits : Nat)
    (above : lead = first → low.toNat ≤ n % 64 + 128)
    (below : lead = last → n % 64 + 128 ≤ high.toNat) :
    Continues ⟨owed, if lead = first then low else 0x80, if lead = last then high else 0xbf, bits⟩
      n := by
  obtain ⟨least, most⟩ := continues_freely owed bits n
  constructor
  · change (if lead = first then low else 0x80).toNat ≤ _
    split
    · rename_i bounded
      exact above bounded
    · exact least
  · change _ ≤ (if lead = last then high else 0xbf).toNat
    split
    · rename_i bounded
      exact below bounded
    · exact most

theorem continues_three {n : Nat} (least : 0x800 ≤ n) (most : n ≤ 0xffff) (valid : n.isValidChar) :
    Continues (afterThree (n / 4096 % 16 + 224)) (n / 64) := by
  unfold Nat.isValidChar at valid
  apply continues_bounded
  · intro overlong
    change 160 ≤ _
    omega
  · intro surrogate
    change _ ≤ 159
    omega

theorem completes_three {n : Nat} (least : 0x800 ≤ n) (most : n ≤ 0xffff)
    (valid : n.isValidChar) :
    Completes none [UInt8.ofNat (n / 4096 % 16 + 224), UInt8.ofNat (n / 64 % 64 + 128),
      UInt8.ofNat (n % 64 + 128)] (Char.ofNat n) := by
  have lead : begin (UInt8.ofNat (n / 4096 % 16 + 224)) = ([], some (afterThree _)) :=
    begin_three (by omega) (by omega)
  have bits : ((n / 4096 % 16 + 224) % 16 * 64 + n / 64 % 64) * 64 + n % 64 = n := by omega
  have ended := Completes.last
    (continues_freely 1 ((n / 4096 % 16 + 224) % 16 * 64 + n / 64 % 64) n) (Nat.le_refl 1)
  rw [bits] at ended
  exact .lead lead (.more (continues_three least most valid) (show ¬2 ≤ 1 by decide) ended)

theorem continues_four {n : Nat} (least : 0x10000 ≤ n) (valid : n.isValidChar) :
    Continues (afterFour (n / 262144 % 8 + 240)) (n / 4096) := by
  unfold Nat.isValidChar at valid
  apply continues_bounded
  · intro overlong
    change 144 ≤ _
    omega
  · intro beyond
    change _ ≤ 143
    omega

theorem completes_four {n : Nat} (least : 0x10000 ≤ n) (valid : n.isValidChar) :
    Completes none [UInt8.ofNat (n / 262144 % 8 + 240), UInt8.ofNat (n / 4096 % 64 + 128),
      UInt8.ofNat (n / 64 % 64 + 128), UInt8.ofNat (n % 64 + 128)] (Char.ofNat n) := by
  have most : n < 0x110000 := by
    unfold Nat.isValidChar at valid
    omega
  have lead : begin (UInt8.ofNat (n / 262144 % 8 + 240)) = ([], some (afterFour _)) :=
    begin_four (by omega) (by omega)
  have bits : (((n / 262144 % 8 + 240) % 8 * 64 + n / 4096 % 64) * 64 + n / 64 % 64) * 64 +
      n % 64 = n := by omega
  have ended := Completes.last (continues_freely 1
    (((n / 262144 % 8 + 240) % 8 * 64 + n / 4096 % 64) * 64 + n / 64 % 64) n) (Nat.le_refl 1)
  rw [bits] at ended
  have third := Completes.more (continues_freely 2 _ _) (show ¬2 ≤ 1 by decide) ended
  exact .lead lead (.more (continues_four least valid) (show ¬3 ≤ 1 by decide) third)

theorem completes_one {n : Nat} (most : n ≤ 0x7f) :
    Completes none [UInt8.ofNat n] (Char.ofNat n) := by
  intro rest
  have single : begin (UInt8.ofNat n) = ([Char.ofNat n], none) := by
    unfold begin
    simp only [toNat_octet (show n < 256 by omega)]
    rw [if_pos (by omega)]
  rw [List.singleton_append, decodeFrom_cons, advance, single]
  rfl

theorem completes_char (c : Char) : Completes none (String.utf8EncodeChar c) c := by
  have valid : c.val.toNat.isValidChar := c.valid
  have same : Char.ofNat c.val.toNat = c := Char.ofNat_toNat c
  rw [String.utf8EncodeChar]
  split
  · rename_i most
    have read := completes_one most
    rwa [same] at read
  split
  · rename_i large most
    have read := completes_two (Nat.lt_of_not_le large) most
    rwa [same] at read
  split
  · rename_i large most
    have read := completes_three (Nat.lt_of_not_le large) most valid
    rwa [same] at read
  · rename_i large
    have read := completes_four (Nat.lt_of_not_le large) valid
    rwa [same] at read

theorem lossy_utf8 (text : List Char) : lossy (utf8 text) = text := by
  induction text with
  | nil => rfl
  | cons c rest ih =>
    rw [utf8, List.flatMap_cons, lossy, completes_char c]
    exact congrArg (c :: ·) ih

theorem utf8EncodeChar_last {c : Char} (other : c ≠ '\x00') :
    ∃ front last, String.utf8EncodeChar c = front ++ [last] ∧ last ≠ 0 := by
  have octet : ∀ n, 0 < n → n < 256 → UInt8.ofNat n ≠ 0 := by
    intro n positive small zero
    have value := congrArg UInt8.toNat zero
    rw [toNat_octet small] at value
    exact absurd value (Nat.ne_of_gt positive)
  have positive : 0 < c.val.toNat := by
    apply Nat.pos_of_ne_zero
    intro zero
    apply other
    rw [← Char.ofNat_toNat c]
    exact congrArg Char.ofNat zero
  rw [String.utf8EncodeChar]
  split
  · exact ⟨[], _, rfl, octet _ positive (by omega)⟩
  split
  · exact ⟨[_], _, rfl, octet _ (by omega) (by omega)⟩
  split
  · exact ⟨[_, _], _, rfl, octet _ (by omega) (by omega)⟩
  · exact ⟨[_, _, _], _, rfl, octet _ (by omega) (by omega)⟩

theorem utf8_concat (text : List Char) (c : Char) :
    utf8 (text ++ [c]) = utf8 text ++ String.utf8EncodeChar c := by
  simp [utf8]

theorem utf8_unpadded (text : List Char) :
    utf8 (unpadded '\x00' text) = unpadded 0 (utf8 text) := by
  induction text using List.reverseRecOn with
  | nil => rfl
  | append_singleton text c ih =>
    by_cases nul : c = '\x00'
    · subst nul
      have single : String.utf8EncodeChar '\x00' = [0] := rfl
      rw [unpadded_fill, utf8_concat, single, unpadded_fill, ih]
    · obtain ⟨front, last, shape, nonzero⟩ := utf8EncodeChar_last nul
      rw [unpadded_other _ nul, utf8_concat, shape, ← List.append_assoc,
        unpadded_other _ nonzero]

end AddressPool.Text
