import AddressPool.Proofs.Bytes
import AddressPool.Proofs.Text.Parts
import AddressPool.Proofs.Text.Utf8
import AddressPool.Text.Quoted

namespace AddressPool.Text

-- Every hex digit is an ASCII character, so what holds of those can be tried out.
theorem hexDigit?_small {c : Char} {digit : Nat} (read : hexDigit? c = some digit) :
    c.toNat < 128 := by
  have bound : ∀ {last : Char}, c ≤ last → last.toNat < 128 → c.toNat < 128 := by
    intro last below small
    exact Nat.lt_of_le_of_lt below small
  unfold hexDigit? at read
  split at read
  · rename_i between
    exact bound between.2 (by decide)
  · split at read
    · rename_i between
      exact bound between.2 (by decide)
    · split at read
      · rename_i between
        exact bound between.2 (by decide)
      · cases read

theorem hexDigit?_code {c : Char} {digit : Nat} (read : hexDigit? c = some digit) :
    ∃ n, n < 128 ∧ c = Char.ofNat n :=
  ⟨c.toNat, hexDigit?_small read, (Char.ofNat_toNat c).symm⟩

theorem hexDigit?_toUpper {c : Char} {digit : Nat} (read : hexDigit? c = some digit) :
    hexDigit? c.toUpper = some digit := by
  have all : ∀ n, n < 128 → hexDigit? (Char.ofNat n).toUpper = hexDigit? (Char.ofNat n) := by
    decide
  obtain ⟨n, small, rfl⟩ := hexDigit?_code read
  rw [all n small, read]

theorem hexDigit?_blank {c : Char} {digit : Nat} (read : hexDigit? c = some digit) :
    isBlank c = false := by
  have all : ∀ n, n < 128 → (hexDigit? (Char.ofNat n)).isSome = true →
      isBlank (Char.ofNat n) = false := by decide
  obtain ⟨n, small, rfl⟩ := hexDigit?_code read
  exact all n small (by simp [read])

inductive Spells : List Char → Bytes → Prop where
  | nil : Spells [] []
  | cons {high low : Char} {h l : Nat} (first : hexDigit? high = some h)
      (second : hexDigit? low = some l) (rest : Spells text bytes) :
      Spells (high :: low :: text) (UInt8.ofNat (16 * h + l) :: bytes)

theorem Spells.digits {text : List Char} {bytes : Bytes} (spells : Spells text bytes) :
    ∀ c ∈ text, ∃ digit, hexDigit? c = some digit := by
  induction spells with
  | nil =>
    intro c member
    cases member
  | cons first second rest ih =>
    intro c member
    rcases List.mem_cons.mp member with rfl | member
    · exact ⟨_, first⟩
    · rcases List.mem_cons.mp member with rfl | member
      · exact ⟨_, second⟩
      · exact ih c member

theorem hexDigit?_octet {octet : UInt8} {digit : Nat}
    (read : hexDigit? (Char.ofNat octet.toNat) = some digit) : octet.toNat < 128 := by
  have valid : octet.toNat.isValidChar := .inl (Nat.lt_trans octet.toNat_lt (by decide))
  have small := hexDigit?_small read
  rw [Char.ofNat, dif_pos valid] at small
  exact small

theorem utf8_digit {text : List Char} {octet : UInt8} {octets : Bytes} {digit : Nat}
    (shape : utf8 text = octet :: octets)
    (read : hexDigit? (Char.ofNat octet.toNat) = some digit) :
    ∃ c rest, text = c :: rest ∧ hexDigit? c = some digit ∧ octets = utf8 rest := by
  cases text with
  | nil => cases shape
  | cons c rest =>
    rw [utf8, List.flatMap_cons] at shape
    rcases utf8EncodeChar_cases c with ⟨small, single⟩ | ⟨first, others, several, large⟩
    · rw [single] at shape
      obtain ⟨rfl, rfl⟩ := List.cons.inj shape
      rw [ofNat_octet small] at read
      exact ⟨c, rest, rfl, read, rfl⟩
    · rw [several] at shape
      obtain ⟨rfl, -⟩ := List.cons.inj shape
      exact absurd (hexDigit?_octet read) (Nat.not_lt.mpr large)

theorem hexPairs_spelled {text : List Char} {bytes : Bytes} (spells : Spells text bytes)
    (position : Nat) :
    hexPairs position (utf8 text) = .ok bytes ∧ (utf8 text).length % 2 = 0 := by
  induction spells generalizing position with
  | nil => exact ⟨rfl, rfl⟩
  | @cons text bytes high low h l first second rest ih =>
    have left := hexDigit?_small first
    have right := hexDigit?_small second
    have shape : utf8 (high :: low :: text) =
        UInt8.ofNat high.toNat :: UInt8.ofNat low.toNat :: utf8 text := by
      simp [utf8, utf8EncodeChar_small left, utf8EncodeChar_small right]
    obtain ⟨read, even⟩ := ih (position + 2)
    rw [shape, hexPairs, ofNat_octet left, ofNat_octet right, first, second]
    refine ⟨?_, ?_⟩
    · simp only [read]
      rfl
    · rw [List.length_cons, List.length_cons]
      omega

theorem hexPairs_spells {octets bytes : Bytes} {position : Nat} {text : List Char}
    (shape : utf8 text = octets) (even : octets.length % 2 = 0)
    (read : hexPairs position octets = .ok bytes) : Spells text bytes := by
  fun_induction hexPairs position octets generalizing text bytes with
  | case1 position high low rest absent => cases read
  | case2 position high low rest h first absent => cases read
  | case3 position high low rest h l second first ih =>
    obtain ⟨c, others, rfl, digit, behind⟩ := utf8_digit shape first
    obtain ⟨d, others, rfl, other, behind⟩ := utf8_digit behind.symm second
    cases later : hexPairs (position + 2) rest with
    | error fault =>
      rw [later] at read
      cases read
    | ok found =>
      rw [later] at read
      cases read
      refine .cons digit other (ih behind.symm ?_ later)
      simp only [List.length_cons] at even
      omega
  | case4 octets position short =>
    cases read
    have ended : octets = [] := by
      match octets with
      | [] => rfl
      | [_] => cases even
      | high :: low :: rest => exact (short high low rest rfl).elim
    cases text with
    | nil => exact .nil
    | cons c text =>
      rw [ended, utf8, List.flatMap_cons] at shape
      rcases utf8EncodeChar_cases c with ⟨-, single⟩ | ⟨first, others, several, -⟩
      · rw [single] at shape
        cases shape
      · rw [several] at shape
        cases shape

theorem hexDecode_ok_iff {text : List Char} {bytes : Bytes} :
    hexDecode text = .ok bytes ↔ Spells text bytes := by
  unfold hexDecode
  simp only
  constructor
  · intro read
    split at read
    · cases read
    · exact hexPairs_spells rfl (by omega) read
  · intro spells
    obtain ⟨read, even⟩ := hexPairs_spelled spells 0
    rw [if_neg (by omega), read]

theorem hexEncode_spells (bytes : Bytes) : Spells (hexEncode bytes) bytes := by
  induction bytes with
  | nil => exact .nil
  | cons octet bytes ih =>
    have small : octet.toNat < 256 := octet.toNat_lt
    have high : hexDigit? (octet.toNat / 16 % 16).digitChar = some (octet.toNat / 16 % 16) :=
      hexDigit?_digitChar (Nat.mod_lt _ (by decide))
    have low : hexDigit? (octet.toNat % 16).digitChar = some (octet.toNat % 16) :=
      hexDigit?_digitChar (Nat.mod_lt _ (by decide))
    have whole : UInt8.ofNat (16 * (octet.toNat / 16 % 16) + octet.toNat % 16) = octet := by
      have parts : 16 * (octet.toNat / 16 % 16) + octet.toNat % 16 = octet.toNat := by omega
      rw [parts, UInt8.ofNat_toNat]
    have spells := Spells.cons high low ih
    rwa [whole] at spells

theorem hexEncode_lower (bytes : Bytes) :
    ∀ c ∈ hexEncode bytes, c ∈ "0123456789abcdef".toList := by
  intro c member
  obtain ⟨octet, -, among⟩ := List.mem_flatMap.mp member
  obtain ⟨digit, place, rfl⟩ := List.mem_map.mp among
  have small : digit < 16 := Positional.places_lt (by decide) place
  have all : ∀ digit < 16, digit.digitChar ∈ "0123456789abcdef".toList := by decide
  exact all digit small

theorem Spells.toUpper {text : List Char} {bytes : Bytes} (spells : Spells text bytes) :
    Spells (text.map Char.toUpper) bytes := by
  induction spells with
  | nil => exact .nil
  | cons first second rest ih =>
    exact .cons (hexDigit?_toUpper first) (hexDigit?_toUpper second) ih

theorem trim_unblank {text : List Char} (none : ∀ c ∈ text, isBlank c = false) :
    trim text = text := by
  have kept : ∀ chars : List Char, (∀ c ∈ chars, isBlank c = false) → trimLeft chars = chars := by
    intro chars all
    cases chars with
    | nil => rfl
    | cons c chars =>
      rw [trimLeft, List.dropWhile_cons, all c List.mem_cons_self]
      rfl
  have reversed : ∀ c ∈ text.reverse, isBlank c = false :=
    fun c member => none c (List.mem_reverse.mp member)
  rw [trim, kept text none, trimRight, kept text.reverse reversed, List.reverse_reverse]

end AddressPool.Text
