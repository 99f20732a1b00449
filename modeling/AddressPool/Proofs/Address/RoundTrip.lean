import AddressPool.Address.Printer
import AddressPool.Network.Session
import AddressPool.Proofs.Address.Classification
import AddressPool.Proofs.Ip.RoundTrip

namespace AddressPool

namespace AddressText

def address : AddressText → Address
  | nothing => .unspecified
  | path octets => .path (.ofBytes octets)
  | ip host _ port => .ip host port

-- The port that reading is given replaces the one in the text, except when it is zero.
def withPort (port : UInt16) : AddressText → AddressText
  | ip host mask written => ip host mask (if port = 0 then written else port)
  | nothing => nothing
  | path octets => path octets

theorem read_withPort (text : String) (bareAllowed : Bool) (port : UInt16) :
    read text bareAllowed port = (read text bareAllowed 0).map (withPort port) := by
  unfold read
  split
  · rfl
  · cases readParts text with
    | error fault => rfl
    | ok found =>
      cases found with
      | none => rfl
      | some parts =>
        simp only
        split
        · rfl
        · rfl

theorem number_numeral (port : UInt16) : Number (Text.numeral port.toNat) port.toNat :=
  number_iff.mp (Text.number?_numeral port.toNat)

theorem meaning_text (host : Ip) (port : UInt16) :
    ∃ form, Means form (Address.text (.ip host port)).toList (.ip host none port) := by
  have number := number_numeral port
  have fits : port.toNat ≤ 65535 := by
    have bound := port.toNat_lt
    omega
  have kept : UInt16.ofNat port.toNat = port := UInt16.ofNat_toNat
  unfold Address.text
  rw [String.toList_ofList]
  unfold Address.chars
  cases version : host.version with
  | v4 =>
    have four : V4Text host.chars host := Ip.readV4_written version
    have meaning := Means.ported four number fits
    rw [kept] at meaning
    exact ⟨.ported, by simpa [version] using meaning⟩
  | v6 =>
    have six : V6Text host.chars host := Ip.readV6_written version
    have meaning := Means.bracketedPort six number fits
    rw [kept] at meaning
    exact ⟨.bracketed, by simpa [version] using meaning⟩

theorem read_text (host : Ip) (port : UInt16) :
    read (Address.text (.ip host port)) true 0 = .ok (.ip host none port) := by
  obtain ⟨form, meaning⟩ := meaning_text host port
  exact (read_looks meaning.looks).mpr meaning

theorem read_hostText (host : Ip) (port other : UInt16) :
    read (Address.hostText (.ip host port)) true other = .ok (.ip host none other) := by
  have meaning : Means .host (Address.hostText (.ip host port)).toList (.ip host none 0) := by
    unfold Address.hostText
    rw [String.toList_ofList]
    exact .host (ipText_iff.mpr (Ip.read_written host))
  rw [read_withPort, (read_looks meaning.looks).mpr meaning]
  by_cases zero : other = 0
  · subst zero
    rfl
  · simp [Except.map, withPort, zero]

end AddressText

namespace Address

theorem parse_eq (text : String) (port : UInt16) :
    parse text port = (AddressText.read text true port).map AddressText.address := by
  unfold parse parseWithMask
  cases AddressText.read text true port with
  | error fault => rfl
  | ok said => cases said <;> rfl

theorem parseWithMask_text (host : Ip) (port : UInt16) :
    parseWithMask (text (.ip host port)) 0 = .ok (.ip host port, none) := by
  unfold parseWithMask
  rw [AddressText.read_text]
  rfl

theorem parse_text (host : Ip) (port : UInt16) :
    parse (text (.ip host port)) 0 = .ok (.ip host port) := by
  unfold parse
  rw [parseWithMask_text]
  rfl

theorem parse_hostText (host : Ip) (port other : UInt16) :
    parse (hostText (.ip host port)) other = .ok (.ip host other) := by
  rw [parse_eq, AddressText.read_hostText]
  rfl

structure RoundTrip (host : Ip) (port : UInt16) : Prop where
  full : parse (text (.ip host port)) 0 = .ok (.ip host port)
  unmasked : parseWithMask (text (.ip host port)) 0 = .ok (.ip host port, none)
  bare : ∀ other, parse (hostText (.ip host port)) other = .ok (.ip host other)
  injective : ∀ host' port', text (.ip host' port') = text (.ip host port) →
    host' = host ∧ port' = port
  canonical : ∀ written given, parse written given = .ok (.ip host port) →
    parse (text (.ip host port)) 0 = parse written given ∧
      (parse (text (.ip host port)) 0).map text = .ok (text (.ip host port))

theorem ip_roundTrip (host : Ip) (port : UInt16) : RoundTrip host port where
  full := parse_text host port
  unmasked := parseWithMask_text host port
  bare := parse_hostText host port
  injective := by
    intro host' port' same
    have read := parse_text host' port'
    rw [same, parse_text] at read
    cases read
    exact ⟨rfl, rfl⟩
  canonical := by
    intro written given read
    rw [read, parse_text]
    exact ⟨rfl, rfl⟩

end Address

namespace AddressText

-- Where a mask is asked for, hosts without one are refused. Nothing else changes.
def demandMask (input : String) : AddressText → Except ArgumentFault AddressText
  | ip _ none _ => .error (.maskRequired input)
  | said => .ok said

theorem read_demandMask (text : String) (port : UInt16) :
    read text false port = (read text true port).bind (demandMask text) := by
  unfold read
  split
  · rfl
  · cases readParts text with
    | error fault => rfl
    | ok found =>
      cases found with
      | none => rfl
      | some parts => cases mask : parts.mask <;> simp [Except.bind, demandMask, mask]

end AddressText

namespace Block

theorem ofHost?_host (block : Block) : ofHost? block.host block.maskSize = some block :=
  dif_pos block.maskSize_le

theorem readMaskSize_numeral {version : Version} {mask : Nat} (fits : mask ≤ version.width) :
    readMaskSize version (Text.numeral mask) = some mask := by
  cases version with
  | v4 =>
    have short : (Text.numeral mask).length ≤ 2 :=
      Text.numeral_length (by decide) (Nat.lt_of_le_of_lt fits (by decide))
    simp [readMaskSize, Text.number?_numeral, short]
  | v6 =>
    have short : (Text.numeral mask).length ≤ 3 :=
      Text.numeral_length (by decide) (Nat.lt_of_le_of_lt fits (by decide))
    simp [readMaskSize, Text.number?_numeral, short]

theorem parse?_text (block : Block) : parse? block.text = some block := by
  have single : '/' ∉ block.host.chars :=
    Ip.not_mem_of_read (Ip.read_written block.host) (by decide)
  rw [parse?, text, String.toList_ofList, chars, Text.cut?_append single]
  simp only [Option.bind_eq_bind, Option.bind_some, Ip.read_chars_any,
    readMaskSize_numeral block.maskSize_le, ofHost?_host]

theorem means_text (block : Block) :
    AddressText.Means .masked block.text.toList (.ip block.host (some block.maskSize) 0) := by
  have host := AddressText.ipText_iff.mpr (Ip.read_written block.host)
  have mask := AddressText.number_iff.mp (Text.number?_numeral block.maskSize)
  rw [text, String.toList_ofList, chars]
  exact .masked host mask block.maskSize_le

theorem ofNetspec_text (block : Block) : ofNetspec block.text = .ok block := by
  have meaning := block.means_text
  have read : AddressText.read block.text false 0 =
      .ok (.ip block.host (some block.maskSize) 0) := by
    rw [AddressText.read_demandMask, (AddressText.read_looks meaning.looks).mpr meaning]
    rfl
  unfold ofNetspec
  simp only [read, ofHost?_host]

end Block

theorem Network.create_text (block : Block) (generator : Generator) :
    create block.text generator =
      (.ok (ofBlock block generator), [(ofBlock block generator).opened]) := by
  unfold create
  rw [block.ofNetspec_text]

end AddressPool
