import AddressPool.Proofs.Network.Netspec

namespace AddressPool

namespace Text

def padded (zeros n : Nat) : List Char := List.replicate zeros '0' ++ numeral n

theorem numberValue_padded (zeros n : Nat) : numberValue (padded zeros n) = n := by
  induction zeros with
  | zero => exact Nat.ofDigitChars_toDigits (by decide) (by decide)
  | succ zeros ih =>
    have shorter : numberValue ('0' :: padded zeros n) = numberValue (padded zeros n) := by
      simp [numberValue, Nat.ofDigitChars_cons]
    exact shorter.trans ih

theorem number?_padded (zeros n : Nat) : number? (padded zeros n) = some n := by
  have digits : isNumber (padded zeros n) = true := by
    simp only [isNumber, padded, Bool.and_eq_true, List.all_append, List.all_eq_true]
    refine ⟨by simp [numeral_ne_nil], ?_, fun _ => isDigit_of_mem_numeral⟩
    intro c member
    rw [List.eq_of_mem_replicate member]
    decide
  rw [number?, if_pos digits, numberValue_padded]

end Text

namespace Address

def maskedText (address : Address) (zeros mask : Nat) : String :=
  address.hostText ++ "/" ++ String.ofList (Text.padded zeros mask)

theorem maskedText_toList (host : Ip) (written : UInt16) (zeros mask : Nat) :
    (maskedText (.ip host written) zeros mask).toList =
      host.chars ++ '/' :: Text.padded zeros mask := by
  simp [maskedText, hostText, hostChars]

theorem acceptsMask_ip {host : Ip} {written : UInt16} {mask : Nat} :
    (Address.ip host written).acceptsMask mask = true ↔ mask ≤ host.version.width := by
  rw [acceptsMask, Bool.and_eq_true, decide_eq_true_eq]
  exact and_iff_right rfl

theorem read_maskedText (host : Ip) (written : UInt16) (zeros mask : Nat) :
    AddressText.read (maskedText (.ip host written) zeros mask) true 0 =
      if mask ≤ host.version.width then .ok (.ip host (some mask) 0)
      else .error (.maskTooLong (maskedText (.ip host written) zeros mask) host.version.width) := by
  have shape := maskedText_toList host written zeros mask
  generalize maskedText (.ip host written) zeros mask = text at shape ⊢
  have either := AddressText.ipText_iff.mpr (Ip.read_written host)
  have hosted : AddressText.HostFirst text.toList := by
    rw [shape]
    exact ⟨host, by rwa [either.upTo_masked]⟩
  have nonempty : text.isEmpty = false := by
    rw [Bool.eq_false_iff, ne_eq, String.isEmpty_iff]
    rintro rfl
    exact hosted.plain.1 rfl
  unfold AddressText.read
  rw [if_neg (by simp [nonempty]), AddressText.readParts_plain hosted.plain, shape,
    AddressText.readPlain_masked either, AddressText.readMask, Text.number?_padded]
  by_cases fits : mask ≤ host.version.width
  · simp [fits, Except.map]
  · simp [fits, Except.map]

section
variable {host : Ip} (written : UInt16) {mask : Nat} (zeros : Nat)

theorem parseWithMask_accepted (fits : mask ≤ host.version.width) (port : UInt16) :
    parseWithMask (maskedText (.ip host written) zeros mask) port =
      .ok (.ip host port, some mask) := by
  unfold parseWithMask
  rw [AddressText.read_withPort, read_maskedText, if_pos fits]
  by_cases zero : port = 0
  · subst zero
    rfl
  · simp [Except.map, AddressText.withPort, zero]

theorem parseWithMask_refused (long : ¬mask ≤ host.version.width) (port : UInt16) :
    parseWithMask (maskedText (.ip host written) zeros mask) port =
      .error (.maskTooLong (maskedText (.ip host written) zeros mask) host.version.width) := by
  unfold parseWithMask
  rw [AddressText.read_withPort, read_maskedText, if_neg long]
  rfl

end
end Address

namespace Network

section
variable {host : Ip} (written : UInt16) {mask : Nat} (zeros : Nat)

theorem create_accepted (fits : mask ≤ host.version.width) (generator : Generator) :
    (create (Address.maskedText (.ip host written) zeros mask) generator).1 =
      .ok (ofBlock ⟨host, mask, fits⟩ generator) := by
  have said := Address.read_maskedText host written zeros mask
  rw [if_pos fits] at said
  exact create_ok_iff.mpr ⟨_, (Block.ofNetspec_judged _).ok_iff.mpr said, rfl⟩

theorem create_refused (long : ¬mask ≤ host.version.width) (generator : Generator) :
    (create (Address.maskedText (.ip host written) zeros mask) generator).1 =
      .error (.address
        (.maskTooLong (Address.maskedText (.ip host written) zeros mask) host.version.width)) := by
  have said := Address.read_maskedText host written zeros mask
  rw [if_neg long] at said
  exact create_error_iff.mpr ((Block.ofNetspec_judged _).address_iff.mpr (.inl said))

end

-- Whether an address takes a mask can be asked of the address, or found out by writing the mask
-- behind it and reading the text as an address or as a network.
structure MaskDecides (address : Address) (mask : Nat) (text : String) : Prop where
  parse_iff : ∀ port,
    address.acceptsMask mask = true ↔ (Address.parseWithMask text port).isOk = true
  parsed : address.acceptsMask mask = true → ∀ port, ∃ moved, address.setPort port = .ok moved ∧
    Address.parseWithMask text port = .ok (moved, some mask)
  unparsed : address.acceptsMask mask = false → ∀ port,
    Address.parseWithMask text port = .error (.maskTooLong text address.maskLimit)
  create_iff : ∀ generator,
    address.acceptsMask mask = true ↔ (create text generator).1.isOk = true
  created : address.acceptsMask mask = true → ∀ generator,
    ∃ network, (create text generator).1 = .ok network ∧ network.block.maskSize = mask ∧
      network.contains address = true ∧ address.host? = some network.block.host
  uncreated : address.acceptsMask mask = false → ∀ generator,
    (create text generator).1 = .error (.address (.maskTooLong text address.maskLimit))

theorem mask_decides (host : Ip) (written : UInt16) (zeros mask : Nat) :
    MaskDecides (.ip host written) mask (Address.maskedText (.ip host written) zeros mask) := by
  have accepts : (Address.ip host written).acceptsMask mask = true ↔ mask ≤ host.version.width :=
    Address.acceptsMask_ip
  by_cases fits : mask ≤ host.version.width
  · have taken := accepts.mpr fits
    have parsed := Address.parseWithMask_accepted written zeros fits
    have created := create_accepted written zeros fits
    constructor
    case parse_iff =>
      intro port
      simp [taken, parsed, Except.isOk, Except.toBool]
    case parsed => exact fun _ port => ⟨_, rfl, parsed port⟩
    case create_iff =>
      intro generator
      simp [taken, created, Except.isOk, Except.toBool]
    case created =>
      exact fun _ generator =>
        ⟨_, created generator, rfl, Block.contains_host ⟨host, mask, fits⟩, rfl⟩
    case unparsed | uncreated =>
      intro refused
      simp [taken] at refused
  · have refused : (Address.ip host written).acceptsMask mask = false := by
      rw [Bool.eq_false_iff, ne_eq, accepts]
      exact fits
    have unparsed := Address.parseWithMask_refused written zeros fits
    have uncreated := create_refused written zeros fits
    constructor
    case parse_iff =>
      intro port
      simp [refused, unparsed, Except.isOk, Except.toBool]
    case unparsed => exact fun _ => unparsed
    case create_iff =>
      intro generator
      simp [refused, uncreated, Except.isOk, Except.toBool]
    case uncreated => exact fun _ => uncreated
    case parsed | created =>
      intro taken
      simp [refused] at taken

example : Address.parseWithMask "10.0.0.1/0256" 0 =
    .error (.maskTooLong "10.0.0.1/0256" 32) := by cbv

end Network
end AddressPool
