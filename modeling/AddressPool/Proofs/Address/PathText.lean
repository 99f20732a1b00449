import AddressPool.Proofs.Address.RoundTrip
import AddressPool.Proofs.LocalPath
import AddressPool.Proofs.Text.Utf8

namespace AddressPool

namespace AddressText

-- NULs behind a text do not change what it looks like, except that a text that was empty or an IP
-- address is the name of a socket with them.

variable {kept fill : List Char}

theorem HostFirst.filled (hosted : HostFirst kept) (slash : '/' ∈ kept) :
    HostFirst (kept ++ fill) := by
  obtain ⟨before, after, rfl, absent⟩ := List.eq_append_cons_of_mem slash
  rw [HostFirst, Text.upTo_marked absent] at hosted
  rwa [HostFirst, List.append_assoc, List.cons_append, Text.upTo_marked absent]

theorem PortFirst.filled (ported : PortFirst kept) (single : '/' ∉ fill) :
    PortFirst (kept ++ fill) := by
  obtain ⟨inner, rest, host, shape, four⟩ := ported
  by_cases slash : '/' ∈ kept
  · obtain ⟨before, after, rfl, absent⟩ := List.eq_append_cons_of_mem slash
    rw [Text.upTo_marked absent] at shape
    refine ⟨inner, rest, host, ?_, four⟩
    rwa [List.append_assoc, List.cons_append, Text.upTo_marked absent]
  · rw [Text.upTo_unmarked slash] at shape
    refine ⟨inner, rest ++ fill, host, ?_, four⟩
    rw [Text.upTo_unmarked (by simp [slash, single]), shape, List.append_assoc, List.cons_append]

theorem looks_unfilled (path : Looks .path (kept ++ fill)) (single : '/' ∉ fill) :
    kept = [] ∨ (∃ host, IpText kept host) ∨ Looks .path kept := by
  obtain ⟨⟨-, noBracket⟩, noHost, noPort⟩ := path
  obtain ⟨form, looks⟩ := looks_total kept
  cases form with
  | nothing => exact .inl looks
  | bracketed =>
    obtain ⟨inside, rfl⟩ := List.head?_eq_some_iff.mp looks
    exact absurd rfl noBracket
  | host =>
    obtain ⟨⟨host, either⟩, slash⟩ := looks
    rw [Text.upTo_unmarked slash] at either
    exact .inr (.inl ⟨host, either⟩)
  | masked => exact absurd (looks.1.filled looks.2) noHost
  | ported => exact absurd (PortFirst.filled looks single) noPort
  | path => exact .inr (.inr looks)

theorem read_name_iff {text : String} {octets : Bytes} :
    read text true 0 = .ok (.path octets) ↔
      Looks .path text.toList ∧ octets = Text.utf8 text.toList := by
  rw [read_iff_means]
  constructor
  · intro known
    obtain ⟨form, meaning⟩ := known
    generalize text.toList = chars at meaning
    cases meaning with
    | path plain noHost noPort => exact ⟨⟨plain, noHost, noPort⟩, rfl⟩
  · intro known
    obtain ⟨⟨plain, noHost, noPort⟩, rfl⟩ := known
    exact ⟨.path, .path plain noHost noPort⟩

end AddressText

namespace Address
open AddressText (Looks IpText HostFirst PortFirst Means)

theorem parse_means {text : String} {form : AddressText.Form} {said : AddressText}
    (meaning : Means form text.toList said) : parse text 0 = .ok said.address := by
  rw [parse_eq, AddressText.read_iff_means.mpr ⟨form, meaning⟩]
  rfl

theorem parse_path_iff {text : String} {name : LocalPath} :
    parse text 0 = .ok (.path name) ↔
      Looks .path text.toList ∧ name = .ofBytes (Text.utf8 text.toList) := by
  rw [parse_eq, AddressText.map_eq_ok_iff]
  constructor
  · intro parsed
    obtain ⟨said, read, same⟩ := parsed
    cases said with
    | path octets =>
      obtain ⟨looks, rfl⟩ := AddressText.read_name_iff.mp read
      exact ⟨looks, Address.path.inj same⟩
    | nothing | ip => cases same
  · intro known
    obtain ⟨looks, rfl⟩ := known
    exact ⟨_, AddressText.read_name_iff.mpr ⟨looks, rfl⟩, rfl⟩

def shownChars (text : String) : List Char := unpadded '\x00' text.toList

section
variable {text : String} {name : LocalPath}

theorem name_shown (named : name = .ofBytes (Text.utf8 text.toList)) :
    name = .ofBytes (Text.utf8 (shownChars text)) := by
  rw [named, shownChars, Text.utf8_unpadded, LocalPath.ofBytes_unpadded]

theorem chars_shown (named : name = .ofBytes (Text.utf8 text.toList))
    (fits : (Text.utf8 text.toList).length ≤ LocalPath.capacity) :
    name.chars = shownChars text := by
  rw [LocalPath.chars, named, LocalPath.bytes_ofBytes fits, ← Text.utf8_unpadded, Text.lossy_utf8]
  rfl

theorem looks_shown (looks : Looks .path text.toList) :
    shownChars text = [] ∨ (∃ host, IpText (shownChars text) host) ∨
      Looks .path (shownChars text) := by
  obtain ⟨count, shape⟩ := exists_padding '\x00' text.toList
  rw [shape] at looks
  have single : '/' ∉ List.replicate count '\x00' :=
    fun member => absurd (List.eq_of_mem_replicate member) (by decide)
  exact AddressText.looks_unfilled looks single

end

inductive ReadBack (name : LocalPath) (shown : List Char) : Address → Prop where
  | nothing (empty : shown = []) : ReadBack name shown .unspecified
  | ip {host : Ip} (either : IpText shown host) : ReadBack name shown (.ip host 0)
  | name (looks : Looks .path shown) : ReadBack name shown (.path name)

theorem parse_shown {text : String} {name : LocalPath} (looks : Looks .path text.toList)
    (named : name = .ofBytes (Text.utf8 text.toList)) :
    ∃ address, parse (String.ofList (shownChars text)) 0 = .ok address ∧
      ReadBack name (shownChars text) address := by
  have chars : (String.ofList (shownChars text)).toList = shownChars text := String.toList_ofList
  rcases looks_shown looks with empty | ⟨host, either⟩ | same
  · rw [empty]
    exact ⟨_, rfl, .nothing rfl⟩
  · have meaning : Means .host _ _ := .host either
    rw [← chars] at meaning
    exact ⟨_, parse_means meaning, .ip either⟩
  · refine ⟨_, parse_path_iff.mpr ⟨?_, ?_⟩, .name same⟩
    · rwa [chars]
    · rw [chars]
      exact name_shown named

theorem ReadBack.unspecified_iff {name : LocalPath} {shown : List Char} {address : Address}
    (back : ReadBack name shown address) : address = .unspecified ↔ shown = [] := by
  cases back with
  | nothing empty => exact iff_of_true rfl empty
  | ip either => exact iff_of_false nofun either.ne_nil
  | name looks => exact iff_of_false nofun looks.1.1

theorem ReadBack.ip_iff {name : LocalPath} {shown : List Char} {address : Address}
    (back : ReadBack name shown address) {host : Ip} {port : UInt16} :
    address = .ip host port ↔ IpText shown host ∧ port = 0 := by
  cases back with
  | nothing empty => exact iff_of_false nofun fun known => known.1.ne_nil empty
  | ip either =>
    constructor
    · intro same
      cases same
      exact ⟨either, rfl⟩
    · intro known
      rw [either.unique known.1, known.2]
  | name looks => exact iff_of_false nofun fun known => looks.2.1 known.1.hostFirst

theorem ReadBack.name_iff {name : LocalPath} {shown : List Char} {address : Address}
    (back : ReadBack name shown address) : address = .path name ↔ Looks .path shown := by
  cases back with
  | nothing empty => exact iff_of_false nofun fun looks => looks.1.1 empty
  | ip either => exact iff_of_false nofun fun looks => looks.2.1 either.hostFirst
  | name looks => exact iff_of_true rfl looks

-- The name of a socket is shown without the NULs at its end. What is shown is read as the same name
-- exactly if it still looks like one: it may have become empty, or the text of an IP address.
structure NameShown (text : String) (name : LocalPath) : Prop where
  full : (Address.path name).text = String.ofList (shownChars text)
  bare : (Address.path name).hostText = String.ofList (shownChars text)
  returns_iff : parse (Address.path name).text 0 = .ok (.path name) ↔
    shownChars text ≠ [] ∧ (shownChars text).head? ≠ some '[' ∧
      ¬HostFirst (shownChars text) ∧ ¬PortFirst (shownChars text)
  classified_iff : parse (Address.path name).text 0 = .ok (.path name) ↔
    ∃ octets, AddressText.read (String.ofList (shownChars text)) true 0 = .ok (.path octets)
  nothing_iff : parse (Address.path name).text 0 = .ok .unspecified ↔ shownChars text = []
  ip_iff : ∀ host port, parse (Address.path name).text 0 = .ok (.ip host port) ↔
    IpText (shownChars text) host ∧ port = 0
  otherwise : parse (Address.path name).text 0 ≠ .ok (.path name) →
    shownChars text = [] ∨ ∃ host, IpText (shownChars text) host

theorem name_textRoundTrip {text : String} {name : LocalPath}
    (parsed : parse text 0 = .ok (.path name))
    (fits : (Text.utf8 text.toList).length ≤ LocalPath.capacity) : NameShown text name := by
  obtain ⟨looks, named⟩ := parse_path_iff.mp parsed
  obtain ⟨address, read, back⟩ := parse_shown looks named
  have shown : (Address.path name).text = String.ofList (shownChars text) :=
    congrArg String.ofList (chars_shown named fits)
  have same : ∀ other, parse (Address.path name).text 0 = .ok other ↔ address = other := by
    intro other
    rw [shown, read, Except.ok.injEq]
  constructor
  case full => exact shown
  case bare => exact shown
  case returns_iff =>
    rw [same, back.name_iff]
    exact and_assoc
  case classified_iff =>
    rw [same, back.name_iff]
    simp only [AddressText.read_name_iff, String.toList_ofList, exists_and_left, exists_eq,
      and_true]
  case nothing_iff => rw [same, back.unspecified_iff]
  case ip_iff =>
    intro host port
    rw [same, back.ip_iff]
  case otherwise =>
    intro other
    rw [Ne, same, back.name_iff] at other
    rcases looks_shown looks with empty | either | still
    · exact .inl empty
    · exact .inr either
    · exact absurd still other

theorem name_textRoundTrip_address :
    let name := LocalPath.ofBytes (Text.utf8 "10.0.0.1\x00".toList)
    parse "10.0.0.1\x00" 0 = .ok (.path name) ∧ NameShown "10.0.0.1\x00" name := by
  have parsed : parse "10.0.0.1\x00" 0 =
      .ok (.path (.ofBytes (Text.utf8 "10.0.0.1\x00".toList))) := rfl
  exact ⟨parsed, name_textRoundTrip parsed (by decide)⟩

end Address
end AddressPool
