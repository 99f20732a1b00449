import AddressPool.Text.Hex
import AddressPool.Text.Parts
import Mathlib.Algebra.Group.Nat.Defs

namespace AddressPool.Text

theorem mapM_read {α β : Type} {read : α → Option β} {parts : List α} {values : List β}
    (all : parts.mapM read = some values) :
    ∀ part ∈ parts, ∃ value ∈ values, read part = some value := by
  induction parts generalizing values with
  | nil =>
    intro part member
    cases member
  | cons first rest ih =>
    rw [List.mapM_cons] at all
    obtain ⟨value, firstRead, all⟩ := Option.bind_eq_some_iff.mp all
    obtain ⟨others, restRead, all⟩ := Option.bind_eq_some_iff.mp all
    cases all
    intro part member
    rcases List.mem_cons.mp member with same | later
    · subst same
      exact ⟨value, by simp, firstRead⟩
    · obtain ⟨other, among, otherRead⟩ := ih restRead part later
      exact ⟨other, List.mem_cons_of_mem _ among, otherRead⟩

theorem mapM_written {α β : Type} {read : α → Option β} {write : β → α} {values : List β}
    (each : ∀ value ∈ values, read (write value) = some value) :
    (values.map write).mapM read = some values := by
  induction values with
  | nil => rfl
  | cons first rest ih =>
    have here := each first (by simp)
    have later := ih (fun value member => each value (List.mem_cons_of_mem _ member))
    simp only [List.map_cons, List.mapM_cons, here, later, Option.pure_def, Option.bind_eq_bind,
      Option.bind_some]

theorem mapM_within {α β : Type} {narrow wide : α → Option β} {parts : List α} {values : List β}
    (each : ∀ part value, narrow part = some value → wide part = some value)
    (all : parts.mapM narrow = some values) : parts.mapM wide = some values := by
  induction parts generalizing values with
  | nil => exact all
  | cons first rest ih =>
    rw [List.mapM_cons] at all ⊢
    obtain ⟨value, firstRead, all⟩ := Option.bind_eq_some_iff.mp all
    obtain ⟨others, restRead, all⟩ := Option.bind_eq_some_iff.mp all
    rw [each first value firstRead, ih restRead]
    exact all

theorem mem_intercalate {c mark : Char} {parts : List (List Char)}
    (member : c ∈ [mark].intercalate parts) : c = mark ∨ ∃ part ∈ parts, c ∈ part := by
  induction parts with
  | nil => cases member
  | cons part rest ih =>
    cases rest with
    | nil =>
      rw [List.intercalate_singleton] at member
      exact .inr ⟨part, by simp, member⟩
    | cons next rest =>
      rw [List.intercalate_cons_cons, List.append_assoc, List.mem_append] at member
      rcases member with first | later
      · exact .inr ⟨part, by simp, first⟩
      · rcases List.mem_append.mp later with between | later
        · exact .inl (List.mem_singleton.mp between)
        · rcases ih later with same | ⟨other, among, inside⟩
          · exact .inl same
          · exact .inr ⟨other, List.mem_cons_of_mem _ among, inside⟩

theorem mem_splitOn (mark : Char) {c : Char} {text : List Char} (member : c ∈ text) :
    c = mark ∨ ∃ part ∈ text.splitOn mark, c ∈ part := by
  have whole : [mark].intercalate (text.splitOn mark) = text := List.intercalate_splitOn mark
  rw [← whole] at member
  exact mem_intercalate member

theorem cut?_append {mark : Char} {before : List Char} (absent : mark ∉ before)
    (after : List Char) : cut? mark (before ++ mark :: after) = some (before, after) :=
  cut?_exact.mpr ⟨rfl, absent⟩

theorem all_unmarked {mark : Char} {text : List Char} (absent : mark ∉ text) :
    ∀ c ∈ text, (c != mark) = true := by
  intro c member
  simp only [bne_iff_ne]
  intro same
  subst same
  exact absent member

def upTo (mark : Char) (text : List Char) : List Char := text.takeWhile (· != mark)

theorem upTo_unmarked {mark : Char} {text : List Char} (absent : mark ∉ text) :
    upTo mark text = text := by
  have kept : (text ++ []).takeWhile (· != mark) = text ++ [] :=
    List.takeWhile_append_of_pos (all_unmarked absent)
  simpa [upTo] using kept

theorem upTo_marked {mark : Char} {before : List Char} (absent : mark ∉ before)
    (after : List Char) : upTo mark (before ++ mark :: after) = before := by
  unfold upTo
  rw [List.takeWhile_append_of_pos (all_unmarked absent)]
  simp

theorem cut_unique {mark : Char} {before after before' after' : List Char}
    (absent : mark ∉ before) (absent' : mark ∉ before')
    (same : before ++ mark :: after = before' ++ mark :: after') :
    before = before' ∧ after = after' := by
  have left := cut?_append absent after
  rw [same, cut?_append absent' after'] at left
  cases left
  exact ⟨rfl, rfl⟩

theorem mem_before {c mark : Char} {before after lead rest : List Char} (absent : mark ∉ before)
    (same : before ++ mark :: after = lead ++ mark :: rest) (member : c ∈ before) : c ∈ lead := by
  rcases List.append_eq_append_iff.mp same with ⟨more, longer, -⟩ | ⟨more, longer, behind⟩
  · rw [longer]
    exact List.mem_append_left more member
  · cases more with
    | nil =>
      rw [List.append_nil] at longer
      rwa [← longer]
    | cons first more =>
      cases behind
      apply absurd _ absent
      rw [longer]
      simp

theorem cutDouble?_eq {mark : Char} {text before after : List Char}
    (found : cutDouble? mark text = some (before, after)) :
    text = before ++ mark :: mark :: after := by
  induction text generalizing before with
  | nil => cases found
  | cons c rest ih =>
    cases rest with
    | nil => cases found
    | cons d rest =>
      rw [cutDouble?] at found
      split at found
      · rename_i both
        obtain ⟨rfl, rfl⟩ := both
        cases found
        rfl
      · cases later : cutDouble? mark (d :: rest) with
        | none =>
          rw [later] at found
          cases found
        | some cut =>
          obtain ⟨between, behind⟩ := cut
          rw [later] at found
          cases found
          rw [ih later]
          rfl

theorem cutDouble?_append {mark : Char} {before : List Char} (absent : mark ∉ before)
    (text : List Char) :
    cutDouble? mark (before ++ text) =
      (cutDouble? mark text).map fun (first, second) => (before ++ first, second) := by
  induction before with
  | nil => simp
  | cons c before ih =>
    have other : c ≠ mark := fun same => absent (by simp [same])
    have rest := ih (fun member => absent (List.mem_cons_of_mem c member))
    rw [List.cons_append]
    cases behind : before ++ text with
    | nil =>
      obtain ⟨rfl, rfl⟩ := List.append_eq_nil_iff.mp behind
      rfl
    | cons d behind' =>
      rw [cutDouble?, if_neg (fun both => other both.1), ← behind, rest]
      simp [Function.comp_def]

theorem cutDouble?_single {mark d : Char} (other : d ≠ mark) (text : List Char) :
    cutDouble? mark (mark :: d :: text) =
      (cutDouble? mark (d :: text)).map fun (first, second) => (mark :: first, second) := by
  rw [cutDouble?, if_neg (fun both => other both.2)]

-- Parts that are not empty leave no two marks side by side, so the first pair of marks comes
-- after all of them.
theorem cutDouble?_intercalate {mark : Char} {parts : List (List Char)}
    (each : ∀ part ∈ parts, part ≠ [] ∧ mark ∉ part) (text : List Char) :
    cutDouble? mark ([mark].intercalate parts ++ text) =
      (cutDouble? mark text).map fun (first, second) =>
        ([mark].intercalate parts ++ first, second) := by
  induction parts with
  | nil => simp [List.intercalate_nil]
  | cons part rest ih =>
    have here := each part (by simp)
    have later := ih (fun other member => each other (List.mem_cons_of_mem part member))
    cases rest with
    | nil =>
      rw [List.intercalate_singleton]
      exact cutDouble?_append here.2 text
    | cons next rest =>
      obtain ⟨nonempty, free⟩ := each next (by simp)
      have single : cutDouble? mark (mark :: ([mark].intercalate (next :: rest) ++ text)) =
          (cutDouble? mark ([mark].intercalate (next :: rest) ++ text)).map
            fun (first, second) => (mark :: first, second) := by
        cases next with
        | nil => exact absurd rfl nonempty
        | cons d next =>
          have other : d ≠ mark := fun same => free (by simp [same])
          rw [List.intercalate_cons_cons_left]
          exact cutDouble?_single other _
      rw [List.intercalate_cons_cons, List.append_assoc, List.append_assoc,
        cutDouble?_append here.2, List.singleton_append, single, later]
      simp [Function.comp_def]

theorem numeral_head {n : Nat} (positive : 0 < n) : (numeral n).head? ≠ some '0' := by
  unfold numeral
  induction n using Nat.strongRecOn with
  | ind n ih =>
    by_cases single : n < 10
    · rw [Nat.toDigits_of_lt_base single]
      intro head
      have zero : n.digitChar = '0' := Option.some.inj head
      have none := Nat.digitChar_eq_zero.mp zero
      omega
    · have shorter := ih (n / 10) (by omega) (by omega)
      rw [Nat.toDigits_of_base_le (by decide) (by omega)]
      cases front : Nat.toDigits 10 (n / 10) with
      | nil => exact absurd front Nat.toDigits_ne_nil
      | cons c rest =>
        rw [front] at shorter
        exact shorter

theorem numeral_length {n : Nat} {places : Nat} (positive : 0 < places) (small : n < 10 ^ places) :
    (numeral n).length ≤ places :=
  (Nat.length_toDigits_le_iff (by decide) positive).mpr small

theorem hexDigit?_digitChar {digit : Nat} (small : digit < 16) :
    hexDigit? digit.digitChar = some digit := by
  have all : ∀ digit, digit < 16 → hexDigit? digit.digitChar = some digit := by decide
  exact all digit small

theorem hexValue?_snoc {text : List Char} {n digit : Nat} {c : Char}
    (front : hexValue? text = some n) (last : hexDigit? c = some digit) :
    hexValue? (text ++ [c]) = some (n * 16 + digit) := by
  unfold hexValue? at front
  obtain ⟨digits, read, rfl⟩ := Option.map_eq_some_iff.mp front
  unfold hexValue?
  simp [List.mapM_append, read, last, Positional.value_append]

theorem hexValue?_toDigits (n : Nat) : hexValue? (Nat.toDigits 16 n) = some n := by
  induction n using Nat.strongRecOn with
  | ind n ih =>
    by_cases single : n < 16
    · rw [Nat.toDigits_of_lt_base single]
      simp [hexValue?, hexDigit?_digitChar single, Positional.value]
    · have front := ih (n / 16) (by omega)
      have last := hexDigit?_digitChar (Nat.mod_lt n (by decide : 0 < 16))
      rw [Nat.toDigits_of_base_le (by decide) (by omega), hexValue?_snoc front last]
      congr 1
      omega

-- No number and no quoted text goes over the end of a line.

theorem digits_line (n : Nat) : '\n' ∉ Nat.toDigits 10 n := fun member =>
  absurd (Nat.isDigit_of_mem_toDigits (by decide) (by decide) member) (by decide)

theorem hexDigits_line (n : Nat) : '\n' ∉ Nat.toDigits 16 n := by
  intro member
  obtain ⟨digits, read, -⟩ := Option.map_eq_some_iff.mp (hexValue?_toDigits n)
  obtain ⟨digit, -, newline⟩ := mapM_read read '\n' member
  cases newline

theorem escaped_line {mark : Char} (other : '\n' ≠ mark) (c : Char) : '\n' ∉ escaped mark c := by
  by_cases special : c = mark ∨ c = '\\'
  · have apart : '\n' ≠ c := by
      rcases special with rfl | rfl
      · exact other
      · decide
    simp [escaped, special, apart]
  · by_cases newline : c = '\n'
    · subst newline
      simp [escaped, other]
    · unfold escaped escapedCode
      grind [hexDigits_line]

theorem quoted_line (text : String) : '\n' ∉ (quoted text).toList := by
  simp [quoted, quotedChars, escaped_line]

end AddressPool.Text
