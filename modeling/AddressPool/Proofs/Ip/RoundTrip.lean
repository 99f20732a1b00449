import AddressPool.Ip
import AddressPool.Proofs.Bytes
import AddressPool.Proofs.Ip.Alphabet
import AddressPool.Proofs.Text.Parts
import Mathlib.Algebra.Group.Nat.Defs

namespace AddressPool.Ip

theorem readOctet_numeral {n : Nat} (small : n < 256) :
    readOctet .strict (Text.numeral n) = some n := by
  have short : (Text.numeral n).length ≤ 3 := Text.numeral_length (by decide) (by omega)
  have proper : (Text.numeral n).length = 1 ∨ (Text.numeral n).head? ≠ some '0' := by
    by_cases zero : n = 0
    · subst zero
      exact .inl rfl
    · exact .inr (Text.numeral_head (by omega))
  unfold readOctet
  simp [Text.number?_numeral, short, small, proper]

theorem readQuad_dottedQuad (n : Nat) : readQuad .strict (dottedQuad n) = some (n % 256 ^ 4) := by
  have free : ∀ part ∈ (Positional.places 256 4 n).map Text.numeral, '.' ∉ part := by
    intro part member dot
    obtain ⟨octet, -, rfl⟩ := List.mem_map.mp member
    exact absurd (Text.isDigit_of_mem_numeral dot) (by decide)
  have octets : ((Positional.places 256 4 n).map Text.numeral).mapM (readOctet .strict) =
      some (Positional.places 256 4 n) :=
    Text.mapM_written fun octet member =>
      readOctet_numeral (Positional.places_lt (by decide) member)
  have four : (dottedQuad n).splitOn '.' = (Positional.places 256 4 n).map Text.numeral :=
    List.splitOn_intercalate '.' free (by simp [Positional.places])
  rw [← Positional.value_places]
  unfold readQuad
  rw [four]
  simp only [Positional.places, List.nil_append, List.cons_append, List.map_cons, List.map_nil]
    at octets ⊢
  rw [octets]
  rfl

theorem readGroup_toDigits {group : Nat} (small : group < 65536) :
    readGroup (Nat.toDigits 16 group) = some group := by
  have short : (Nat.toDigits 16 group).length ≤ 4 :=
    (Nat.length_toDigits_le_iff (by decide) (by decide)).mpr small
  unfold readGroup
  rw [if_pos ⟨Nat.length_toDigits_pos, short⟩]
  exact Text.hexValue?_toDigits group

theorem colon_not_mem_toDigits {group : Nat} (small : group < 65536) :
    ':' ∉ Nat.toDigits 16 group :=
  fun colon => absurd (readGroup_hex (readGroup_toDigits small) ':' colon) (by decide)

theorem readParts_toDigits {grammar : Grammar} {quadAllowed : Bool} {groups : List Nat}
    (small : ∀ group ∈ groups, group < 65536) :
    readParts grammar quadAllowed (groups.map (Nat.toDigits 16)) = some groups := by
  induction groups with
  | nil => rfl
  | cons group rest ih =>
    have here := readGroup_toDigits (small group (by simp))
    have later := ih (fun other member => small other (List.mem_cons_of_mem group member))
    cases rest with
    | nil => simp [readParts, here]
    | cons next rest =>
      rw [List.map_cons, List.map_cons, readParts]
      · rw [List.map_cons] at later
        simp [here, later]
      · simp

theorem readGroups_groupsText {grammar : Grammar} {quadAllowed : Bool} {groups : List Nat}
    (small : ∀ group ∈ groups, group < 65536) :
    readGroups grammar quadAllowed (groupsText groups) = some groups := by
  cases groups with
  | nil => rfl
  | cons group rest =>
    have free : ∀ part ∈ (group :: rest).map (Nat.toDigits 16), ':' ∉ part := by
      intro part member
      obtain ⟨other, among, rfl⟩ := List.mem_map.mp member
      exact colon_not_mem_toDigits (small other among)
    have parts : (groupsText (group :: rest)).splitOn ':' =
        (group :: rest).map (Nat.toDigits 16) :=
      List.splitOn_intercalate ':' free (by simp)
    have written : groupsText (group :: rest) ≠ [] := by
      intro empty
      rw [empty, List.splitOn_nil, List.map_cons] at parts
      exact Nat.toDigits_ne_nil (List.cons.inj parts).1.symm
    unfold readGroups
    rw [if_neg (by simpa using written), parts]
    exact readParts_toDigits small

def Gap (groups : List Nat) (gap : Nat × Nat) : Prop :=
  gap.1 + gap.2 ≤ groups.length ∧ (groups.drop gap.1).take gap.2 = List.replicate gap.2 0

theorem zeroRun_le (groups : List Nat) : zeroRun groups ≤ groups.length :=
  (List.takeWhile_sublist _).length_le

theorem take_zeroRun (groups : List Nat) :
    groups.take (zeroRun groups) = List.replicate (zeroRun groups) 0 := by
  induction groups with
  | nil => rfl
  | cons group rest ih =>
    by_cases zero : group = 0
    · subst zero
      have longer : zeroRun (0 :: rest) = zeroRun rest + 1 := by simp [zeroRun]
      rw [longer, List.take_succ_cons, ih, List.replicate_succ]
    · have none : zeroRun (group :: rest) = 0 := by simp [zeroRun, zero]
      rw [none]
      rfl

theorem gap_here {groups : List Nat} {start : Nat} (inside : start ≤ groups.length) :
    Gap groups (start, zeroRun (groups.drop start)) := by
  have bound := zeroRun_le (groups.drop start)
  rw [List.length_drop] at bound
  exact ⟨by simp only; omega, take_zeroRun _⟩

-- The best gap so far stays one while the starting points are tried.
theorem gap_best {groups starts : List Nat} {best : Nat × Nat}
    (inside : ∀ start ∈ starts, start ≤ groups.length) (known : Gap groups best) :
    Gap groups (starts.foldl (fun best start =>
      let length := zeroRun (groups.drop start)
      if best.2 < length then (start, length) else best) best) := by
  induction starts generalizing best with
  | nil => exact known
  | cons start rest ih =>
    rw [List.foldl_cons]
    apply ih (fun other member => inside other (List.mem_cons_of_mem start member))
    simp only
    split
    · exact gap_here (inside start (by simp))
    · exact known

theorem longestGap_gap (groups : List Nat) : Gap groups (longestGap groups) := by
  apply gap_best
  · intro start member
    have bound := List.mem_range.mp member
    omega
  · exact ⟨by simp, rfl⟩

theorem gap_split {groups : List Nat} {gap : Nat × Nat} (known : Gap groups gap) :
    groups.take gap.1 ++ List.replicate gap.2 0 ++ groups.drop (gap.1 + gap.2) = groups := by
  rw [← known.2, List.append_assoc, ← List.drop_drop, List.take_append_drop,
    List.take_append_drop]

theorem cutDouble?_groupsText {groups : List Nat} (small : ∀ group ∈ groups, group < 65536)
    (text : List Char) :
    Text.cutDouble? ':' (groupsText groups ++ text) =
      (Text.cutDouble? ':' text).map
        fun (first, second) => (groupsText groups ++ first, second) := by
  apply Text.cutDouble?_intercalate
  intro part member
  obtain ⟨group, among, rfl⟩ := List.mem_map.mp member
  exact ⟨Nat.toDigits_ne_nil, colon_not_mem_toDigits (small group among)⟩

theorem readEight_groupsText {groups : List Nat} (eight : groups.length = 8)
    (small : ∀ group ∈ groups, group < 65536) :
    readEight .strict (groupsText groups) = some groups := by
  have uncut : Text.cutDouble? ':' (groupsText groups) = none := by
    have cut := cutDouble?_groupsText small []
    rw [List.append_nil] at cut
    exact cut
  unfold readEight
  simp [uncut, readGroups_groupsText small, eight]

theorem readEight_gap {groups : List Nat} {gap : Nat × Nat} (eight : groups.length = 8)
    (small : ∀ group ∈ groups, group < 65536) (known : Gap groups gap) (wide : 2 ≤ gap.2) :
    readEight .strict (groupsText (groups.take gap.1) ++ [':', ':'] ++
      groupsText (groups.drop (gap.1 + gap.2))) = some groups := by
  have inside := known.1
  have before : ∀ group ∈ groups.take gap.1, group < 65536 :=
    fun group member => small group (List.mem_of_mem_take member)
  have after : ∀ group ∈ groups.drop (gap.1 + gap.2), group < 65536 :=
    fun group member => small group (List.mem_of_mem_drop member)
  have cut : Text.cutDouble? ':' (groupsText (groups.take gap.1) ++ [':', ':'] ++
      groupsText (groups.drop (gap.1 + gap.2))) =
      some (groupsText (groups.take gap.1), groupsText (groups.drop (gap.1 + gap.2))) := by
    rw [List.append_assoc, cutDouble?_groupsText before]
    simp [Text.cutDouble?]
  have missing : 8 - (gap.1 + (8 - (gap.1 + gap.2))) = gap.2 := by omega
  unfold readEight
  simp only [cut, readGroups_groupsText before, readGroups_groupsText after, Option.bind_eq_bind,
    Option.bind_some, List.length_take, List.length_drop, eight]
  rw [if_pos (by omega), Nat.min_eq_left (by omega), missing, gap_split known]

theorem readEight_compressed {groups : List Nat} (eight : groups.length = 8)
    (small : ∀ group ∈ groups, group < 65536) :
    readEight .strict (compressed groups) = some groups := by
  unfold compressed
  simp only
  split
  · exact readEight_groupsText eight small
  · rename_i wide
    exact readEight_gap eight small (longestGap_gap groups) (by omega)

theorem readEight_mapped (n : Nat) :
    readEight .strict ("::ffff:".toList ++ dottedQuad n) =
      some (List.replicate 5 0 ++ 0xffff :: Positional.places 65536 2 (n % 256 ^ 4)) := by
  have quad := readQuad_dottedQuad n
  have free := colon_not_mem_of_readQuad quad
  have ungrouped : readGroup (dottedQuad n) = none := by
    cases group : readGroup (dottedQuad n) with
    | none => rfl
    | some value =>
      exact absurd (readGroup_hex group '.' (dot_mem_of_readQuad quad)) (by decide)
  have cut : Text.cutDouble? ':' ("::ffff:".toList ++ dottedQuad n) =
      some ([], "ffff".toList ++ ':' :: dottedQuad n) := by
    simp [Text.cutDouble?]
  have last : readParts .strict true [dottedQuad n] =
      some (Positional.places 65536 2 (n % 256 ^ 4)) := by
    simp [readParts, ungrouped, quad]
  have first : readGroup "ffff".toList = some 0xffff := by decide
  have tail : readGroups .strict true ("ffff".toList ++ ':' :: dottedQuad n) =
      some (0xffff :: Positional.places 65536 2 (n % 256 ^ 4)) := by
    unfold readGroups
    rw [if_neg (by simp), List.splitOn_append_cons_self_of_not_mem (by decide),
      List.splitOn_eq_singleton free, readParts]
    · rw [first, last]
      rfl
    · simp
  have head : readGroups .strict false [] = some [] := rfl
  unfold readEight
  simp only [cut, head, tail, Option.bind_eq_bind, Option.bind_some, List.length_cons,
    Positional.places_length]
  rfl

theorem value_mapped {n : Nat} (mapped : isMapped n = true) :
    Positional.value 65536 (List.replicate 5 0 ++ 0xffff ::
      Positional.places 65536 2 (n % 256 ^ 4)) = n := by
  have top : n / 2 ^ 32 = 0xffff := by
    rw [← Nat.shiftRight_eq_div_pow]
    simpa [isMapped] using mapped
  rw [Positional.value_zeros]
  simp [Positional.value, Positional.places]
  omega

theorem readV4_written {ip : Ip} (four : ip.version = .v4) :
    readV4 .strict ip.chars = some ip := by
  have bound := ip.value_lt
  have count : Version.v4.count = 256 ^ 4 := by decide
  rw [four, count] at bound
  unfold readV4 Ip.chars
  simp only [four, readQuad_dottedQuad, Option.map_some, Nat.mod_eq_of_lt bound]
  rw [← four, wrap_value]

theorem readV6_written {ip : Ip} (six : ip.version = .v6) :
    readV6 .strict ip.chars = some ip := by
  have bound := ip.value_lt
  have count : Version.v6.count = 65536 ^ 8 := by decide
  rw [six, count] at bound
  unfold readV6 Ip.chars
  simp only [six]
  split
  · rename_i mapped
    rw [readEight_mapped, Option.map_some, value_mapped mapped, ← six, wrap_value]
  · have small : ∀ group ∈ groups ip.value, group < 65536 :=
      fun group member => Positional.places_lt (by decide) member
    have eight : (groups ip.value).length = 8 := Positional.places_length 65536 8 ip.value
    rw [readEight_compressed eight small, Option.map_some]
    unfold groups
    rw [Positional.value_places, Nat.mod_eq_of_lt bound, ← six, wrap_value]

theorem read_written (ip : Ip) : Ip.read .strict ip.chars = some ip := by
  rw [read_eq_some_iff]
  cases version : ip.version with
  | v4 => exact .inl (readV4_written version)
  | v6 => exact .inr (readV6_written version)

-- A grammar that allows more reads whatever one that allows less reads, and reads the same.

def Grammar.Within (narrow wide : Grammar) : Prop :=
  (narrow.leadingZeros = true → wide.leadingZeros = true) ∧
    (narrow.emptyGap = true → wide.emptyGap = true)

theorem strict_within (wide : Grammar) : Grammar.strict.Within wide :=
  ⟨fun never => (nomatch never), fun never => (nomatch never)⟩

section
variable {narrow wide : Grammar} (within : narrow.Within wide)
include within

theorem readOctet_within {text : List Char} {n : Nat}
    (read : readOctet narrow text = some n) : readOctet wide text = some n := by
  unfold readOctet at read ⊢
  obtain ⟨m, number, read⟩ := Option.bind_eq_some_iff.mp read
  rw [number, Option.bind_eq_bind, Option.bind_some]
  split at read
  · rename_i allowed
    rw [if_pos ⟨allowed.1, allowed.2.1, allowed.2.2.imp_left within.1⟩, read]
  · cases read

theorem readQuad_within {text : List Char} {n : Nat}
    (read : readQuad narrow text = some n) : readQuad wide text = some n := by
  unfold readQuad at read ⊢
  split at read
  · rename_i a b c d four
    obtain ⟨octets, each, rfl⟩ := Option.map_eq_some_iff.mp read
    simp only [Text.mapM_within (fun _ _ octet => readOctet_within within octet) each,
      Option.map_some]
  · cases read

theorem readParts_within {quadAllowed : Bool} {parts : List (List Char)} {groups : List Nat}
    (read : readParts narrow quadAllowed parts = some groups) :
    readParts wide quadAllowed parts = some groups := by
  induction parts generalizing groups with
  | nil => exact read
  | cons first rest ih =>
    cases rest with
    | nil =>
      unfold readParts at read ⊢
      cases group : readGroup first with
      | some n => rwa [group] at read
      | none =>
        simp only [group] at read ⊢
        split at read
        · rename_i allowed
          obtain ⟨n, quad, rfl⟩ := Option.map_eq_some_iff.mp read
          rw [if_pos allowed, readQuad_within within quad, Option.map_some]
        · cases read
    | cons second rest =>
      unfold readParts at read ⊢
      obtain ⟨group, firstRead, read⟩ := Option.bind_eq_some_iff.mp read
      obtain ⟨others, restRead, read⟩ := Option.bind_eq_some_iff.mp read
      rw [firstRead, ih restRead]
      exact read

theorem readGroups_within {quadAllowed : Bool} {text : List Char} {groups : List Nat}
    (read : readGroups narrow quadAllowed text = some groups) :
    readGroups wide quadAllowed text = some groups := by
  unfold readGroups at read ⊢
  split at read
  · rename_i empty
    rw [if_pos empty, read]
  · rename_i nonempty
    rw [if_neg nonempty]
    exact readParts_within within read

theorem readEight_within {text : List Char} {groups : List Nat}
    (read : readEight narrow text = some groups) : readEight wide text = some groups := by
  unfold readEight at read ⊢
  cases cut : Text.cutDouble? ':' text with
  | none =>
    simp only [cut] at read ⊢
    obtain ⟨all, each, read⟩ := Option.bind_eq_some_iff.mp read
    rw [readGroups_within within each, Option.bind_eq_bind, Option.bind_some, read]
  | some sides =>
    simp only [cut] at read ⊢
    obtain ⟨head, left, read⟩ := Option.bind_eq_some_iff.mp read
    obtain ⟨tail, right, read⟩ := Option.bind_eq_some_iff.mp read
    rw [readGroups_within within left, Option.bind_eq_bind, Option.bind_some,
      readGroups_within within right, Option.bind_some]
    split at read
    · rename_i room
      rw [if_pos ⟨room.1, room.2.imp_right fun gap => ⟨within.2 gap.1, gap.2⟩⟩, read]
    · cases read

theorem read_within {text : List Char} {host : Ip} (read : Ip.read narrow text = some host) :
    Ip.read wide text = some host := by
  rw [read_eq_some_iff] at read ⊢
  refine read.imp ?_ ?_
  · intro four
    obtain ⟨n, quad, rfl⟩ := Option.map_eq_some_iff.mp four
    rw [readV4, readQuad_within within quad, Option.map_some]
  · intro six
    obtain ⟨groups, eight, rfl⟩ := Option.map_eq_some_iff.mp six
    rw [readV6, readEight_within within eight, Option.map_some]

end

theorem read_chars_any (grammar : Grammar) (ip : Ip) : Ip.read grammar ip.chars = some ip :=
  read_within (strict_within grammar) (read_written ip)

theorem parse?_text (ip : Ip) : Ip.parse? ip.text = some ip := by
  rw [parse?, text, String.toList_ofList, read_written]

end AddressPool.Ip
