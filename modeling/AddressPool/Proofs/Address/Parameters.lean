import AddressPool.Proofs.Address.RoundTrip

namespace AddressPool.AddressText

-- Reading takes two parameters besides the text: a port that wins over the one in the text, and
-- whether a host may stand without a mask. Here is how far they can change what the text says.

def onPort (port : UInt16) : AddressText → AddressText
  | ip host mask _ => ip host mask port
  | nothing => nothing
  | path octets => path octets

def isBare : AddressText → Bool
  | ip _ none _ => true
  | ip _ (some _) _ | nothing | path _ => false

theorem withPort_given {port : UInt16} (given : port ≠ 0) : withPort port = onPort port := by
  funext said
  cases said <;> simp [withPort, onPort, given]

section
variable (text : String) (bareAllowed : Bool) (port : UInt16)

theorem read_error_iff {fault : ArgumentFault} :
    read text bareAllowed port = .error fault ↔ read text bareAllowed 0 = .error fault := by
  rw [read_withPort]
  cases read text bareAllowed 0 <;> simp [Except.map]

theorem read_unported_iff {said : AddressText} (unported : said.family.isIp = false) :
    read text bareAllowed port = .ok said ↔ read text bareAllowed 0 = .ok said := by
  rw [read_withPort]
  cases read text bareAllowed 0 with
  | error fault => simp [Except.map]
  | ok plain => cases plain <;> cases said <;> simp_all [Except.map, withPort, family, Family.isIp]

end

theorem demandMask_eq_ok_iff {text : String} {said told : AddressText} :
    demandMask text said = .ok told ↔ told = said ∧ said.isBare = false := by
  cases said with
  | ip host mask port => cases mask <;> simp [demandMask, isBare, eq_comm]
  | nothing | path octets => simp [demandMask, isBare, eq_comm]

theorem demandMask_eq_error_iff {text : String} {said : AddressText} {fault : ArgumentFault} :
    demandMask text said = .error fault ↔ fault = .maskRequired text ∧ said.isBare = true := by
  cases said with
  | ip host mask port => cases mask <;> simp [demandMask, isBare, eq_comm]
  | nothing | path octets => simp [demandMask, isBare]

inductive Ported : List Char → Ip → List Char → Prop where
  | plain {inner digits : List Char} {host : Ip} (four : V4Text inner host)
      (single : '/' ∉ digits) : Ported (inner ++ ':' :: digits) host digits
  | bracketed {inner digits : List Char} {host : Ip} (six : V6Text inner host) :
      Ported ('[' :: (inner ++ ']' :: ':' :: digits)) host digits

theorem readParts_ported {text : String} {host : Ip} {digits : List Char}
    (ported : Ported text.toList host digits) :
    readParts text = (readPort text digits).map fun port => some ⟨host, some port, none⟩ := by
  generalize shape : text.toList = chars at ported
  cases ported with
  | @plain inner digits host four single =>
    have whole : '/' ∉ inner ++ ':' :: digits := by
      have before : '/' ∉ inner := IpText.slash (.inl four)
      simp [before, single]
    have looks : PortFirst text.toList := by
      rw [shape]
      exact ⟨inner, digits, host, Text.upTo_unmarked whole, four⟩
    rw [readParts_plain looks.plain, shape, readPlain_ported four whole]
  | @bracketed inner digits host six =>
    have address : Ip.readV6 .strict inner = some host := six
    have closed := Text.cut?_append (IpText.absent (.inr six) (by decide : ¬(']' = ':' ∨ _)))
      (':' :: digits)
    unfold readParts readBracketed
    simp only [shape, closed, address]
    cases readPort text digits <;> rfl

theorem read_ported_error {text : String} {host : Ip} {digits : List Char}
    (ported : Ported text.toList host digits) (noPort : ¬∃ q, Number digits q ∧ q ≤ 65535) :
    ∃ fault, ∀ bareAllowed port, read text bareAllowed port = .error fault := by
  have nonempty : text.isEmpty = false := by
    rw [Bool.eq_false_iff, ne_eq, String.isEmpty_iff]
    rintro rfl
    generalize shape : "".toList = chars at ported
    cases ported <;> simp at shape
  cases unread : readPort text digits with
  | ok port =>
    obtain ⟨q, number, fits, -⟩ := readPort_eq_ok_iff.mp unread
    exact absurd ⟨q, number, fits⟩ noPort
  | error fault =>
    refine ⟨fault, ?_⟩
    intro bareAllowed port
    unfold read
    rw [if_neg (by simp [nonempty]), readParts_ported ported, unread]
    rfl

-- What a text says does not depend on the parameters except where they are asked for: no port
-- rescues or breaks a text, and no value is read differently because a mask is demanded.
structure ParametersRefine (text : String) : Prop where
  overridden : ∀ bareAllowed port, port ≠ 0 →
    read text bareAllowed port = (read text bareAllowed 0).map (onPort port)
  same_fault : ∀ bareAllowed port fault,
    read text bareAllowed port = .error fault ↔ read text bareAllowed 0 = .error fault
  same_unported : ∀ bareAllowed port said, said.family.isIp = false →
    (read text bareAllowed port = .ok said ↔ read text bareAllowed 0 = .ok said)
  port_checked : ∀ host digits, Ported text.toList host digits →
    (¬∃ q, Number digits q ∧ q ≤ 65535) →
    ∃ fault, ∀ bareAllowed port, read text bareAllowed port = .error fault
  demanded : ∀ port, read text false port = (read text true port).bind (demandMask text)
  demanded_ok : ∀ port said,
    read text false port = .ok said ↔ read text true port = .ok said ∧ said.isBare = false
  demanded_fault : ∀ port fault, read text false port = .error fault ↔
    read text true port = .error fault ∨
      fault = .maskRequired text ∧ ∃ said, read text true port = .ok said ∧ said.isBare = true

theorem parameters_refine (text : String) : ParametersRefine text where
  overridden := by
    intro bareAllowed port given
    rw [read_withPort, withPort_given given]
  same_fault := fun bareAllowed port _ => read_error_iff text bareAllowed port
  same_unported := fun bareAllowed port _ => read_unported_iff text bareAllowed port
  port_checked := fun _ _ ported => read_ported_error ported
  demanded := read_demandMask text
  demanded_ok := by
    intro port said
    rw [read_demandMask]
    cases read text true port with
    | error fault => simp [Except.bind]
    | ok plain =>
      rw [Except.bind, demandMask_eq_ok_iff, Except.ok.injEq, eq_comm]
      exact and_congr_right fun same => by rw [same]
  demanded_fault := by
    intro port fault
    rw [read_demandMask]
    cases read text true port with
    | error other => simp [Except.bind]
    | ok plain => simp [Except.bind, demandMask_eq_error_iff]

example : read "10.0.0.1:65536" true 443 =
    .error (.portTooLarge "10.0.0.1:65536" "65536") := by cbv

end AddressPool.AddressText
