import AddressPool.Ip
import AddressPool.Proofs.Text.Parts

namespace AddressPool.Ip

-- What IP addresses are written with: hex digits, dots and colons, and nothing else. Only IPv6
-- addresses have colons, and nothing in front of the first colon is a dot.

def IsHex (c : Char) : Prop := (Text.hexDigit? c).isSome = true

instance (c : Char) : Decidable (IsHex c) := inferInstanceAs (Decidable (_ = true))

theorem isHex_of_isDigit {c : Char} (digit : c.isDigit = true) : IsHex c := by
  have bounds : '0' ≤ c ∧ c ≤ '9' := by
    simpa [Char.isDigit, Char.le_def] using digit
  simp [IsHex, Text.hexDigit?, bounds]

theorem number_digits {text : List Char} {n : Nat} (read : Text.number? text = some n) :
    text ≠ [] ∧ ∀ c ∈ text, c.isDigit = true := by
  unfold Text.number? at read
  split at read
  · rename_i digits
    simpa [Text.isNumber] using digits
  · cases read

theorem readOctet_digits {grammar : Grammar} {text : List Char} {n : Nat}
    (read : readOctet grammar text = some n) : ∀ c ∈ text, c.isDigit = true := by
  cases number : Text.number? text with
  | none =>
    unfold readOctet at read
    simp [number] at read
  | some n => exact (number_digits number).2

theorem readQuad_parts {grammar : Grammar} {text : List Char} {n : Nat}
    (read : readQuad grammar text = some n) :
    (text.splitOn '.').length = 4 ∧ ∀ part ∈ text.splitOn '.', ∀ c ∈ part, c.isDigit = true := by
  unfold readQuad at read
  split at read
  · rename_i a b c d four
    rw [four]
    refine ⟨rfl, ?_⟩
    cases octets : [a, b, c, d].mapM (readOctet grammar) with
    | none => simp [octets] at read
    | some values =>
      intro part member
      obtain ⟨value, -, octet⟩ := Text.mapM_read octets part member
      exact readOctet_digits octet
  · cases read

theorem readQuad_chars {grammar : Grammar} {text : List Char} {n : Nat}
    (read : readQuad grammar text = some n) : ∀ c ∈ text, c = '.' ∨ c.isDigit = true := by
  intro c member
  rcases Text.mem_splitOn '.' member with dot | ⟨part, among, inside⟩
  · exact .inl dot
  · exact .inr ((readQuad_parts read).2 part among c inside)

theorem dot_mem_of_readQuad {grammar : Grammar} {text : List Char} {n : Nat}
    (read : readQuad grammar text = some n) : '.' ∈ text := by
  apply Classical.byContradiction
  intro absent
  have four := (readQuad_parts read).1
  rw [List.splitOn_eq_singleton absent] at four
  cases four

theorem colon_not_mem_of_readQuad {grammar : Grammar} {text : List Char} {n : Nat}
    (read : readQuad grammar text = some n) : ':' ∉ text := by
  intro member
  rcases readQuad_chars read ':' member with dot | digit
  · exact absurd dot (by decide)
  · exact absurd digit (by decide)

theorem readGroup_hex {text : List Char} {n : Nat} (read : readGroup text = some n) :
    ∀ c ∈ text, IsHex c := by
  unfold readGroup at read
  split at read
  · unfold Text.hexValue? at read
    cases digits : text.mapM Text.hexDigit? with
    | none => simp [digits] at read
    | some values =>
      intro c member
      obtain ⟨digit, -, hex⟩ := Text.mapM_read digits c member
      simp [IsHex, hex]
  · cases read

theorem readParts_chars {grammar : Grammar} {quadAllowed : Bool} {parts : List (List Char)}
    {groups : List Nat} (read : readParts grammar quadAllowed parts = some groups) :
    ∀ part ∈ parts, ∀ c ∈ part, IsHex c ∨ quadAllowed = true ∧ c = '.' := by
  induction parts generalizing groups with
  | nil =>
    intro part member
    cases member
  | cons first rest ih =>
    cases rest with
    | nil =>
      intro part member
      cases List.mem_singleton.mp member
      intro c inside
      unfold readParts at read
      cases group : readGroup first with
      | some n => exact .inl (readGroup_hex group c inside)
      | none =>
        simp only [group] at read
        split at read
        · rename_i allowed
          cases quad : readQuad grammar first with
          | none => simp [quad] at read
          | some n =>
            rcases readQuad_chars quad c inside with dot | digit
            · exact .inr ⟨allowed, dot⟩
            · exact .inl (isHex_of_isDigit digit)
        · cases read
    | cons second rest =>
      unfold readParts at read
      obtain ⟨group, firstRead, read⟩ := Option.bind_eq_some_iff.mp read
      obtain ⟨others, restRead, -⟩ := Option.bind_eq_some_iff.mp read
      intro part member
      rcases List.mem_cons.mp member with same | later
      · subst same
        intro c inside
        exact .inl (readGroup_hex firstRead c inside)
      · exact ih restRead part later

theorem readGroups_chars {grammar : Grammar} {quadAllowed : Bool} {text : List Char}
    {groups : List Nat} (read : readGroups grammar quadAllowed text = some groups) :
    ∀ c ∈ text, c = ':' ∨ IsHex c ∨ quadAllowed = true ∧ c = '.' := by
  intro c member
  unfold readGroups at read
  split at read
  · rename_i empty
    rw [List.isEmpty_iff.mp empty] at member
    cases member
  · rcases Text.mem_splitOn ':' member with colon | ⟨part, among, inside⟩
    · exact .inl colon
    · exact .inr (readParts_chars read part among c inside)

theorem readEight_cases {grammar : Grammar} {text : List Char} {eight : List Nat}
    (read : readEight grammar text = some eight) :
    (readGroups grammar true text = some eight ∧ eight.length = 8) ∨
      ∃ before after head tail, text = before ++ ':' :: ':' :: after ∧
        readGroups grammar false before = some head ∧
        readGroups grammar true after = some tail := by
  unfold readEight at read
  cases cut : Text.cutDouble? ':' text with
  | none =>
    rw [cut] at read
    obtain ⟨groups, all, read⟩ := Option.bind_eq_some_iff.mp read
    split at read
    · rename_i length
      cases read
      exact .inl ⟨all, length⟩
    · cases read
  | some sides =>
    obtain ⟨before, after⟩ := sides
    rw [cut] at read
    obtain ⟨head, left, read⟩ := Option.bind_eq_some_iff.mp read
    obtain ⟨tail, right, -⟩ := Option.bind_eq_some_iff.mp read
    exact .inr ⟨before, after, head, tail, Text.cutDouble?_eq cut, left, right⟩

theorem readEight_chars {grammar : Grammar} {text : List Char} {eight : List Nat}
    (read : readEight grammar text = some eight) :
    ∀ c ∈ text, c = ':' ∨ IsHex c ∨ c = '.' := by
  intro c member
  have weaken {allowed : Bool} (known : c = ':' ∨ IsHex c ∨ allowed = true ∧ c = '.') :
      c = ':' ∨ IsHex c ∨ c = '.' := known.imp_right (Or.imp_right And.right)
  rcases readEight_cases read with ⟨all, -⟩ | ⟨before, after, head, tail, rfl, left, right⟩
  · exact weaken (readGroups_chars all c member)
  · rcases List.mem_append.mp member with inside | inside
    · exact weaken (readGroups_chars left c inside)
    · rcases List.mem_cons.mp inside with colon | inside
      · exact .inl colon
      · rcases List.mem_cons.mp inside with colon | inside
        · exact .inl colon
        · exact weaken (readGroups_chars right c inside)

theorem colon_mem_of_readEight {grammar : Grammar} {text : List Char} {eight : List Nat}
    (read : readEight grammar text = some eight) : ':' ∈ text := by
  rcases readEight_cases read with ⟨all, length⟩ | ⟨before, after, head, tail, rfl, -, -⟩
  · apply Classical.byContradiction
    intro absent
    unfold readGroups at all
    split at all
    · cases all
      cases length
    · rw [List.splitOn_eq_singleton absent] at all
      unfold readParts at all
      split at all
      · cases all
        cases length
      · split at all
        · cases quad : readQuad grammar text with
          | none => simp [quad] at all
          | some n =>
            simp only [quad, Option.map_some, Option.some.injEq] at all
            rw [← all, Positional.places_length] at length
            cases length
        · cases all
  · simp

-- A dotted quad can only be the last part, so it is not what the first colon ends.
theorem readEight_before {grammar : Grammar} {before after : List Char} {eight : List Nat}
    (read : readEight grammar (before ++ ':' :: after) = some eight) (absent : ':' ∉ before) :
    ∀ c ∈ before, IsHex c := by
  intro c member
  rcases readEight_cases read with ⟨all, -⟩ | ⟨lead, rest, head, tail, same, left, -⟩
  · unfold readGroups at all
    rw [if_neg (by simp), List.splitOn_append_cons_self_of_not_mem absent] at all
    cases parts : after.splitOn ':' with
    | nil => exact absurd parts (List.splitOn_ne_nil ':' after)
    | cons second others =>
      rw [parts] at all
      unfold readParts at all
      obtain ⟨group, firstRead, -⟩ := Option.bind_eq_some_iff.mp all
      exact readGroup_hex firstRead c member
  · have inside : c ∈ lead := Text.mem_before absent same member
    rcases readGroups_chars left c inside with colon | hex | ⟨never, -⟩
    · subst colon
      exact absurd member absent
    · exact hex
    · cases never

theorem readV4_quad {grammar : Grammar} {text : List Char} {host : Ip}
    (read : readV4 grammar text = some host) :
    host.version = .v4 ∧ ∃ n, readQuad grammar text = some n := by
  obtain ⟨n, quad, rfl⟩ := Option.map_eq_some_iff.mp read
  exact ⟨rfl, n, quad⟩

theorem readV6_eight {grammar : Grammar} {text : List Char} {host : Ip}
    (read : readV6 grammar text = some host) :
    host.version = .v6 ∧ ∃ groups, readEight grammar text = some groups := by
  obtain ⟨groups, eight, rfl⟩ := Option.map_eq_some_iff.mp read
  exact ⟨rfl, groups, eight⟩

theorem colon_not_mem_of_readV4 {grammar : Grammar} {text : List Char} {host : Ip}
    (read : readV4 grammar text = some host) : ':' ∉ text := by
  obtain ⟨-, n, quad⟩ := readV4_quad read
  exact colon_not_mem_of_readQuad quad

theorem colon_mem_of_readV6 {grammar : Grammar} {text : List Char} {host : Ip}
    (read : readV6 grammar text = some host) : ':' ∈ text := by
  obtain ⟨-, groups, eight⟩ := readV6_eight read
  exact colon_mem_of_readEight eight

theorem read_eq_some_iff {grammar : Grammar} {text : List Char} {host : Ip} :
    Ip.read grammar text = some host ↔
      readV4 grammar text = some host ∨ readV6 grammar text = some host := by
  unfold Ip.read
  cases first : readV4 grammar text with
  | none => simp
  | some other =>
    simp only [Option.some_or]
    constructor
    · exact .inl
    · intro either
      rcases either with same | second
      · exact same
      · exact absurd (colon_mem_of_readV6 second) (colon_not_mem_of_readV4 first)

theorem read_chars {grammar : Grammar} {text : List Char} {host : Ip}
    (read : Ip.read grammar text = some host) : ∀ c ∈ text, c = ':' ∨ IsHex c ∨ c = '.' := by
  intro c member
  rcases read_eq_some_iff.mp read with v4 | v6
  · obtain ⟨-, n, quad⟩ := readV4_quad v4
    rcases readQuad_chars quad c member with dot | digit
    · exact .inr (.inr dot)
    · exact .inr (.inl (isHex_of_isDigit digit))
  · obtain ⟨-, groups, eight⟩ := readV6_eight v6
    exact readEight_chars eight c member

theorem not_mem_of_read {grammar : Grammar} {text : List Char} {host : Ip} {c : Char}
    (read : Ip.read grammar text = some host) (foreign : ¬(c = ':' ∨ IsHex c ∨ c = '.')) :
    c ∉ text :=
  fun member => foreign (read_chars read c member)

theorem ne_nil_of_read {grammar : Grammar} {text : List Char} {host : Ip}
    (read : Ip.read grammar text = some host) : text ≠ [] := by
  intro empty
  subst empty
  rcases read_eq_some_iff.mp read with v4 | v6
  · obtain ⟨-, n, quad⟩ := readV4_quad v4
    cases dot_mem_of_readQuad quad
  · cases colon_mem_of_readV6 v6

theorem read_quad_colon {grammar : Grammar} {text rest : List Char} {host : Ip}
    (first : readV4 grammar text = some host) : Ip.read grammar (text ++ ':' :: rest) = none := by
  have absent := colon_not_mem_of_readV4 first
  cases whole : Ip.read grammar (text ++ ':' :: rest) with
  | none => rfl
  | some other =>
    obtain ⟨-, n, quad⟩ := readV4_quad first
    rcases read_eq_some_iff.mp whole with v4 | v6
    · exact absurd (by simp) (colon_not_mem_of_readV4 v4)
    · obtain ⟨-, groups, eight⟩ := readV6_eight v6
      have hex := readEight_before eight absent '.' (dot_mem_of_readQuad quad)
      exact absurd hex (by decide)

end AddressPool.Ip
