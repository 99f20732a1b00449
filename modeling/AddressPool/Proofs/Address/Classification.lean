import AddressPool.Proofs.Address.Grammar
import AddressPool.Proofs.Text.Parts

namespace AddressPool.AddressText

theorem map_eq_ok_iff {α β : Type} {value : Except ArgumentFault α} {build : α → β} {built : β} :
    value.map build = .ok built ↔ ∃ known, value = .ok known ∧ built = build known := by
  cases value with
  | error fault => simp [Except.map]
  | ok known => simp [Except.map, eq_comm]

theorem map_eq_error_iff {α β : Type} {value : Except ArgumentFault α} {build : α → β}
    {fault : ArgumentFault} : value.map build = .error fault ↔ value = .error fault := by
  cases value <;> simp [Except.map]

def Parts.said (parts : Parts) : AddressText := .ip parts.host parts.mask (parts.port.getD 0)

theorem readBracketed_sound {input : String} {inside : List Char} {parts : Parts}
    (read : readBracketed input inside = .ok parts) :
    Means .bracketed ('[' :: inside) parts.said := by
  unfold readBracketed at read
  split at read
  · cases read
  · rename_i inner tail cut
    obtain ⟨rfl, -⟩ := Text.cut?_exact.mp cut
    split at read
    · cases read
    · rename_i host six
      split at read
      · cases read
        exact .bracketed six
      · rename_i digits
        obtain ⟨port, number, rfl⟩ := map_eq_ok_iff.mp read
        obtain ⟨q, valid, fits, rfl⟩ := readPort_eq_ok_iff.mp number
        exact .bracketedPort six valid fits
      · cases read

theorem readBracketed_complete {input : String} {inside : List Char} {said : AddressText}
    (meaning : Means .bracketed ('[' :: inside) said) :
    ∃ parts, readBracketed input inside = .ok parts ∧ said = parts.said := by
  unfold readBracketed
  cases meaning with
  | bracketed six =>
    have address : Ip.readV6 .strict _ = _ := six
    rw [Text.cut?_append (IpText.absent (.inr six) (by decide))]
    simp only [address]
    exact ⟨_, rfl, rfl⟩
  | bracketedPort six number fits =>
    have address : Ip.readV6 .strict _ = _ := six
    have port : readPort input _ = .ok _ := readPort_eq_ok_iff.mpr ⟨_, number, fits, rfl⟩
    rw [Text.cut?_append (IpText.absent (.inr six) (by decide))]
    simp only [address, port, Except.map]
    exact ⟨_, rfl, rfl⟩

theorem readPlain_host {input : String} {text : List Char} {host : Ip}
    (either : IpText text host) : readPlain input text = .ok (some ⟨host, none, none⟩) := by
  have whole : Text.cut? '/' text = none := Text.cut?_none.mpr either.slash
  have address := ipText_iff.mp either
  unfold readPlain
  simp only [whole, address]

theorem readPlain_masked {input : String} {inner : List Char} {host : Ip}
    (either : IpText inner host) (mask : List Char) :
    readPlain input (inner ++ '/' :: mask) =
      (readMask input host.version.width mask).map fun mask => some ⟨host, none, some mask⟩ := by
  have cut : Text.cut? '/' (inner ++ '/' :: mask) = some (inner, mask) :=
    Text.cut?_append either.slash mask
  have address := ipText_iff.mp either
  unfold readPlain
  simp only [cut, address]

theorem cut_ported {inner : List Char} {host : Ip} (four : V4Text inner host)
    (rest : List Char) :
    ((Text.cut? ':' (inner ++ ':' :: rest)).bind fun (before, port) =>
      (Ip.readV4 .strict before).map fun address => (address, port)) = some (host, rest) := by
  have address : Ip.readV4 .strict inner = some host := four
  rw [Text.cut?_append four.colon]
  simp [address]

theorem readPlain_ported {input : String} {inner digits : List Char} {host : Ip}
    (four : V4Text inner host) (single : '/' ∉ inner ++ ':' :: digits) :
    readPlain input (inner ++ ':' :: digits) =
      (readPort input digits).map fun port => some ⟨host, some port, none⟩ := by
  have whole := Text.cut?_none.mpr single
  have noHost : Ip.read .strict (inner ++ ':' :: digits) = none := Ip.read_quad_colon four
  unfold readPlain
  simp only [whole, noHost, cut_ported four]
  rfl

theorem readPlain_maskAfterPort {input : String} {text : List Char} (ported : PortFirst text)
    (slash : '/' ∈ text) : readPlain input text = .error (.maskAfterPort input) := by
  obtain ⟨inner, rest, host, shape, four⟩ := ported
  have noHost : Ip.read .strict (inner ++ ':' :: rest) = none := Ip.read_quad_colon four
  cases cut : Text.cut? '/' text with
  | none => exact absurd slash (Text.cut?_none.mp cut)
  | some sides =>
    obtain ⟨before, mask⟩ := sides
    obtain ⟨rfl, absent⟩ := Text.cut?_exact.mp cut
    rw [Text.upTo_marked absent] at shape
    subst shape
    unfold readPlain
    simp only [cut, noHost, cut_ported four]
    rfl

theorem cut_path {text : List Char} (noPort : ¬PortFirst text) :
    ((Text.cut? ':' (Text.upTo '/' text)).bind fun (before, port) =>
      (Ip.readV4 .strict before).map fun address => (address, port)) = none := by
  cases cut : Text.cut? ':' (Text.upTo '/' text) with
  | none => rfl
  | some sides =>
    obtain ⟨before, port⟩ := sides
    cases address : Ip.readV4 .strict before with
    | none => simp [address]
    | some host =>
      exact absurd ⟨before, port, host, (Text.cut?_exact.mp cut).1, address⟩ noPort

theorem readPlain_path {input : String} {text : List Char} (noHost : ¬HostFirst text)
    (noPort : ¬PortFirst text) : readPlain input text = .ok none := by
  have unread : Ip.read .strict (Text.upTo '/' text) = none := by
    cases address : Ip.read .strict (Text.upTo '/' text) with
    | none => rfl
    | some host => exact absurd ⟨host, ipText_iff.mpr address⟩ noHost
  have uncut := cut_path noPort
  unfold readPlain
  cases cut : Text.cut? '/' text with
  | none =>
    rw [Text.upTo_unmarked (Text.cut?_none.mp cut)] at unread uncut
    simp only [unread, uncut]
  | some sides =>
    obtain ⟨before, mask⟩ := sides
    obtain ⟨rfl, absent⟩ := Text.cut?_exact.mp cut
    rw [Text.upTo_marked absent] at unread uncut
    simp only [unread, uncut]

theorem read_eq_ok_iff {text : String} (nonempty : text.toList ≠ []) {said : AddressText} :
    read text true 0 = .ok said ↔
      readParts text = .ok none ∧ said = .path (Text.utf8 text.toList) ∨
        ∃ parts, readParts text = .ok (some parts) ∧ said = parts.said := by
  have kept : text.isEmpty = false := by
    simpa [String.isEmpty_iff] using nonempty
  unfold read
  rw [if_neg (by simp [kept])]
  cases readParts text with
  | error fault => simp
  | ok found =>
    cases found with
    | none => simp [eq_comm]
    | some parts => simp [eq_comm, Parts.said]

theorem readParts_plain {text : String} (plain : Plain text.toList) :
    readParts text = readPlain text text.toList := by
  unfold readParts
  split
  · rename_i inside bracketed
    rw [bracketed] at plain
    exact absurd rfl plain.2
  · rfl

theorem read_nothing {text : String} (empty : text.toList = []) {said : AddressText} :
    read text true 0 = .ok said ↔ Means .nothing text.toList said := by
  have blank : text.isEmpty = true := by
    simpa [String.isEmpty_iff] using empty
  unfold read
  rw [if_pos blank, empty]
  constructor
  · intro read
    cases read
    exact .nothing
  · intro meaning
    cases meaning
    rfl

theorem read_bracketed {text : String} (bracket : text.toList.head? = some '[')
    {said : AddressText} : read text true 0 = .ok said ↔ Means .bracketed text.toList said := by
  obtain ⟨inside, shape⟩ := List.head?_eq_some_iff.mp bracket
  have bracketed : readParts text = (readBracketed text inside).map some := by
    unfold readParts
    simp only [shape]
  rw [read_eq_ok_iff (by simp [shape]), bracketed, shape]
  constructor
  · intro read
    rcases read with ⟨path, -⟩ | ⟨parts, found, rfl⟩
    · obtain ⟨other, -, never⟩ := map_eq_ok_iff.mp path
      cases never
    · obtain ⟨other, known, same⟩ := map_eq_ok_iff.mp found
      cases same
      exact readBracketed_sound known
  · intro meaning
    right
    obtain ⟨parts, found, said⟩ : ∃ parts, readBracketed text inside = .ok parts ∧ _ :=
      readBracketed_complete meaning
    exact ⟨parts, map_eq_ok_iff.mpr ⟨parts, found, rfl⟩, said⟩

theorem read_plain {text : String} (plain : Plain text.toList) {said : AddressText} :
    read text true 0 = .ok said ↔
      readPlain text text.toList = .ok none ∧ said = .path (Text.utf8 text.toList) ∨
        ∃ parts, readPlain text text.toList = .ok (some parts) ∧ said = parts.said := by
  rw [read_eq_ok_iff plain.1, readParts_plain plain]

theorem read_host {text : String} (looks : Looks .host text.toList) {said : AddressText} :
    read text true 0 = .ok said ↔ Means .host text.toList said := by
  obtain ⟨hosted, single⟩ := looks
  rw [read_plain hosted.plain]
  obtain ⟨host, either⟩ := hosted
  rw [Text.upTo_unmarked single] at either
  rw [readPlain_host either]
  constructor
  · intro read
    rcases read with ⟨path, -⟩ | ⟨parts, found, rfl⟩
    · cases path
    · cases found
      exact .host either
  · intro meaning
    cases meaning with
    | host other =>
      cases other.unique either
      exact .inr ⟨_, rfl, rfl⟩

theorem read_masked {text : String} (looks : Looks .masked text.toList) {said : AddressText} :
    read text true 0 = .ok said ↔ Means .masked text.toList said := by
  obtain ⟨hosted, slash⟩ := looks
  rw [read_plain hosted.plain]
  obtain ⟨host, either⟩ := hosted
  obtain ⟨inner, mask, shape, absent⟩ := List.eq_append_cons_of_mem slash
  rw [shape, Text.upTo_marked absent] at either
  rw [shape, readPlain_masked either]
  constructor
  · intro read
    rcases read with ⟨path, -⟩ | ⟨parts, found, rfl⟩
    · obtain ⟨m, -, never⟩ := map_eq_ok_iff.mp path
      cases never
    · obtain ⟨m, valid, known⟩ := map_eq_ok_iff.mp found
      cases known
      obtain ⟨number, fits⟩ := readMask_eq_ok_iff.mp valid
      exact .masked either number fits
  · intro meaning
    generalize whole : inner ++ '/' :: mask = chars at meaning
    cases meaning with
    | masked other number fits =>
      obtain ⟨rfl, rfl⟩ := Text.cut_unique absent other.slash whole
      cases other.unique either
      have valid : readMask text host.version.width mask = .ok _ :=
        readMask_eq_ok_iff.mpr ⟨number, fits⟩
      exact .inr ⟨_, map_eq_ok_iff.mpr ⟨_, valid, rfl⟩, rfl⟩

theorem read_ported {text : String} (looks : PortFirst text.toList) {said : AddressText} :
    read text true 0 = .ok said ↔ Means .ported text.toList said := by
  rw [read_plain looks.plain]
  by_cases slash : '/' ∈ text.toList
  · rw [readPlain_maskAfterPort looks slash]
    constructor
    · intro read
      rcases read with ⟨path, -⟩ | ⟨parts, found, -⟩
      · cases path
      · cases found
    · intro meaning
      generalize text.toList = chars at meaning slash
      cases meaning with
      | ported four number fits => exact absurd slash (four.slash_ported number)
  · obtain ⟨inner, digits, host, shape, four⟩ := looks
    rw [Text.upTo_unmarked slash] at shape
    rw [shape] at slash
    rw [shape, readPlain_ported four slash]
    constructor
    · intro read
      rcases read with ⟨path, -⟩ | ⟨parts, found, rfl⟩
      · obtain ⟨port, -, never⟩ := map_eq_ok_iff.mp path
        cases never
      · obtain ⟨port, valid, known⟩ := map_eq_ok_iff.mp found
        cases known
        obtain ⟨q, number, fits, rfl⟩ := readPort_eq_ok_iff.mp valid
        exact .ported four number fits
    · intro meaning
      generalize whole : inner ++ ':' :: digits = chars at meaning
      cases meaning with
      | ported other number fits =>
        obtain ⟨rfl, rfl⟩ := Text.cut_unique four.colon other.colon whole
        have same : some host = some _ := four.symm.trans other
        cases same
        have valid : readPort text digits = .ok _ :=
          readPort_eq_ok_iff.mpr ⟨_, number, fits, rfl⟩
        exact .inr ⟨_, map_eq_ok_iff.mpr ⟨_, valid, rfl⟩, rfl⟩

theorem read_path {text : String} (looks : Looks .path text.toList) {said : AddressText} :
    read text true 0 = .ok said ↔ Means .path text.toList said := by
  obtain ⟨plain, noHost, noPort⟩ := looks
  rw [read_plain plain, readPlain_path noHost noPort]
  constructor
  · intro read
    rcases read with ⟨-, rfl⟩ | ⟨parts, found, -⟩
    · exact .path plain noHost noPort
    · cases found
  · intro meaning
    generalize text.toList = chars at meaning
    cases meaning with
    | path => exact .inl ⟨rfl, rfl⟩

-- A text is read in the form it looks like, if that form allows it, and is refused otherwise.
theorem read_looks {text : String} {form : Form} (looks : Looks form text.toList)
    {said : AddressText} : read text true 0 = .ok said ↔ Means form text.toList said := by
  cases form with
  | nothing => exact read_nothing looks
  | bracketed => exact read_bracketed looks
  | host => exact read_host looks
  | masked => exact read_masked looks
  | ported => exact read_ported looks
  | path => exact read_path looks

theorem meaning_unique {text : List Char} {form other : Form} {said told : AddressText}
    (left : Means form text said) (right : Means other text told) : form = other ∧ said = told := by
  have sameForm := looks_unique left.looks right.looks
  subst sameForm
  refine ⟨rfl, ?_⟩
  have text_eq : (String.ofList text).toList = text := String.toList_ofList
  rw [← text_eq] at left right
  have first := (read_looks left.looks).mpr left
  have second := (read_looks right.looks).mpr right
  rw [first] at second
  exact Except.ok.inj second

theorem read_iff_means {text : String} {said : AddressText} :
    read text true 0 = .ok said ↔ ∃ form, Means form text.toList said := by
  constructor
  · intro read
    obtain ⟨form, looks⟩ := looks_total text.toList
    exact ⟨form, (read_looks looks).mp read⟩
  · intro known
    obtain ⟨form, meaning⟩ := known
    exact (read_looks meaning.looks).mpr meaning

structure Classified (text : String) : Prop where
  accepted : ∀ said, read text true 0 = .ok said ↔ ∃ form, Means form text.toList said
  refused : (∃ fault, read text true 0 = .error fault) ↔ ¬∃ form said, Means form text.toList said
  unique : ∀ form other said told, Means form text.toList said → Means other text.toList told →
    form = other ∧ said = told

theorem read_classifies (text : String) : Classified text := by
  refine ⟨fun _ => read_iff_means, ?_, fun _ _ _ _ => meaning_unique⟩
  constructor
  · intro refused
    obtain ⟨fault, refused⟩ := refused
    intro known
    obtain ⟨other, said, meaning⟩ := known
    have read := read_iff_means.mpr ⟨other, meaning⟩
    rw [refused] at read
    cases read
  · intro unsaid
    cases outcome : read text true 0 with
    | error fault => exact ⟨fault, rfl⟩
    | ok said =>
      obtain ⟨other, meaning⟩ := read_iff_means.mp outcome
      exact absurd ⟨other, said, meaning⟩ unsaid

example : read "10.0.0.1:22/8" true 0 = .error (.maskAfterPort "10.0.0.1:22/8") := by cbv

example : read "10.0.1:22/8" true 0 = .ok (.path (Text.utf8 "10.0.1:22/8".toList)) := by cbv

theorem readPort_line {input : String} {port : List Char} {fault : ArgumentFault}
    (line : '\n' ∉ input.toList) (refused : readPort input port = .error fault) :
    '\n' ∉ fault.reason.toList := by
  unfold readPort at refused
  cases read : Text.number? port with
  | none =>
    rw [read] at refused
    cases refused
    simp [ArgumentFault.reason, toString, line, Text.quoted_line]
  | some n =>
    have digits := (number_iff.mp read).2.1 '\n'
    rw [read] at refused
    simp only at refused
    split at refused
    · cases refused
    · cases refused
      have plain : '\n' ∉ port := fun member => absurd (digits member) (by decide)
      simp [ArgumentFault.reason, toString, line, plain]

theorem readMask_line {input : String} {limit : Nat} {mask : List Char} {fault : ArgumentFault}
    (line : '\n' ∉ input.toList) (refused : readMask input limit mask = .error fault) :
    '\n' ∉ fault.reason.toList := by
  unfold readMask at refused
  split at refused
  · cases refused
    simp [ArgumentFault.reason, toString, line, Text.quoted_line]
  · split at refused
    · cases refused
    · cases refused
      simp [ArgumentFault.reason, toString, line, Text.digits_line]

theorem readBracketed_line {input : String} {inside : List Char} {fault : ArgumentFault}
    (line : '\n' ∉ input.toList) (part : '\n' ∉ inside)
    (refused : readBracketed input inside = .error fault) : '\n' ∉ fault.reason.toList := by
  unfold readBracketed at refused
  split at refused
  · cases refused
    simp [ArgumentFault.reason, toString, line]
  · rename_i host tail cut
    obtain ⟨rfl, -⟩ := Text.cut?_exact.mp cut
    split at refused
    · cases refused
      simp_all [ArgumentFault.reason, toString]
    · split at refused
      · cases refused
      · exact readPort_line line (map_eq_error_iff.mp refused)
      · cases refused
        simp [ArgumentFault.reason, toString, line, Text.quoted_line]

theorem readPlain_line {input : String} {text : List Char} {fault : ArgumentFault}
    (line : '\n' ∉ input.toList) (refused : readPlain input text = .error fault) :
    '\n' ∉ fault.reason.toList := by
  unfold readPlain at refused
  simp only at refused
  split at refused
  · split at refused
    · cases refused
    · exact readMask_line line (map_eq_error_iff.mp refused)
  · split at refused
    · cases refused
    · split at refused
      · cases refused
        simp [ArgumentFault.reason, toString, line]
      · exact readPort_line line (map_eq_error_iff.mp refused)

theorem readParts_line {text : String} {fault : ArgumentFault} (line : '\n' ∉ text.toList)
    (refused : readParts text = .error fault) : '\n' ∉ fault.reason.toList := by
  unfold readParts at refused
  split at refused
  · rename_i inside shape
    have part : '\n' ∉ inside := fun member => line (shape ▸ List.mem_cons_of_mem _ member)
    exact readBracketed_line line part (map_eq_error_iff.mp refused)
  · exact readPlain_line line refused

-- What is said against a text that is one line takes no second line.
theorem read_line {text : String} {bareAllowed : Bool} {port : UInt16} {fault : ArgumentFault}
    (line : '\n' ∉ text.toList) (refused : read text bareAllowed port = .error fault) :
    '\n' ∉ fault.reason.toList := by
  unfold read at refused
  split at refused
  · cases refused
  · cases parts : readParts text with
    | error other =>
      rw [parts] at refused
      cases refused
      exact readParts_line line parts
    | ok found =>
      rw [parts] at refused
      cases found with
      | none => cases refused
      | some parts =>
        simp only at refused
        split at refused
        · cases refused
          simp [ArgumentFault.reason, toString, line]
        · cases refused

end AddressPool.AddressText
