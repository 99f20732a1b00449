import AddressPool.Proofs.Address.RoundTrip
import AddressPool.Proofs.Cli.Arguments
import AddressPool.Proofs.Log
import AddressPool.Proofs.Text.Hex
import AddressPool.Proofs.Wire.Image

namespace AddressPool.Cli

def versionWord : Version → String
  | .v4 => "inet4"
  | .v6 => "inet6"

def leaveOut (name : String) (kept : Bool) : List Given := if kept then [] else [⟨name, none⟩]

def encodeLine (text : String) (tagged withPort : Bool) : List String :=
  commandLine "encode" [text] (leaveOut "no-type" tagged ++ leaveOut "no-port" withPort)

def decodeLine (data : String) (known : Option Version) (withPort : Bool) : List String :=
  commandLine "decode" [data]
    ((known.map fun version => ⟨"family", some (versionWord version)⟩).toList ++
      leaveOut "no-port" withPort)

theorem read_encodeLine {text : String} (bare : text.toList.head? ≠ some '-')
    (tagged withPort : Bool) :
    Invocation.read (encodeLine text tagged withPort) =
      some (.run false (.encode text tagged withPort)) := by
  have plain : ∀ argument ∈ [text], argument.toList.head? ≠ some '-' :=
    List.forall_mem_singleton.mpr bare
  have reader : Command.reader? "encode" = some (Command.encodeSpecs, Command.encodeOf) := rfl
  cases tagged <;> cases withPort <;>
    exact Invocation.read_commandLine (by decide) reader plain (by decide) rfl rfl rfl

theorem read_decodeLine {data : String} (bare : data.toList.head? ≠ some '-')
    (known : Option Version) (withPort : Bool) :
    Invocation.read (decodeLine data known withPort) =
      some (.run false (.decode data known withPort)) := by
  have plain : ∀ argument ∈ [data], argument.toList.head? ≠ some '-' :=
    List.forall_mem_singleton.mpr bare
  have reader : Command.reader? "decode" = some (Command.decodeSpecs, Command.decodeOf) := rfl
  rcases known with _ | _ | _ <;> cases withPort <;>
    exact Invocation.read_commandLine (by decide) reader plain (by decide) rfl rfl rfl

theorem output_line (display : Display) (text : String) (succeeded : Bool) :
    display.output ⟨[.line text], succeeded⟩ = text ++ "\n" := by
  rw [Display.output_eq]
  exact String.append_empty

theorem head_append {inner rest : List Char} {host : Ip} (either : AddressText.IpText inner host) :
    (inner ++ rest).head? ≠ some '-' := by
  cases inner with
  | nil => exact absurd rfl either.ne_nil
  | cons first inner =>
    intro dash
    cases Option.some.inj dash
    exact either.absent (by decide) List.mem_cons_self

theorem head_of_means {form : AddressText.Form} {text : List Char} {host : Ip} {mask : Option Nat}
    {port : UInt16} (meaning : AddressText.Means form text (.ip host mask port)) :
    text.head? ≠ some '-' := by
  cases meaning with
  | bracketed | bracketedPort => exact fun bracket => nomatch bracket
  | host either =>
    rw [← List.append_nil text]
    exact head_append either
  | masked either => exact head_append either
  | ported four => exact head_append (.inl four)

theorem read_of_parse {text : String} {host : Ip} {port : UInt16}
    (parsed : Address.parse text 0 = .ok (.ip host port)) :
    ∃ mask, AddressText.read text true 0 = .ok (.ip host mask port) := by
  rw [Address.parse_eq, AddressText.map_eq_ok_iff] at parsed
  obtain ⟨said, read, same⟩ := parsed
  cases said with
  | ip other mask written =>
    cases same
    exact ⟨mask, read⟩
  | nothing | path => cases same

theorem head_of_parse {text : String} {host : Ip} {port : UInt16}
    (parsed : Address.parse text 0 = .ok (.ip host port)) : text.toList.head? ≠ some '-' := by
  obtain ⟨mask, read⟩ := read_of_parse parsed
  obtain ⟨form, looks⟩ := AddressText.looks_total text.toList
  exact head_of_means ((AddressText.read_looks looks).mp read)

theorem encode_ip {text : String} {host : Ip} {port : UInt16}
    (parsed : Address.parse text 0 = .ok (.ip host port)) (tagged withPort : Bool) :
    encode text tagged withPort =
      ⟨[.line (Report.hex (Wire.encode (.ip host port) tagged withPort))], true⟩ := by
  obtain ⟨mask, read⟩ := read_of_parse parsed
  have silent : AddressText.readLog text = [] := by rw [AddressText.readLog, read]
  unfold encode
  simp only [parsed, silent]
  rfl

-- What is said of a text that is not encoded, and how it is put out.
inductive Refuses (display : Display) (text : String) : List Notice → List String → Prop where
  | malformed {fault : ArgumentFault} (parsed : Address.parse text 0 = .error fault) :
      Refuses display text [.failed s!"Invalid argument: {fault.reason}"]
        [display.record .error .program s!"Invalid argument: {fault.reason}"]
  | unspecified (parsed : Address.parse text 0 = .ok .unspecified) :
      Refuses display text [.failed "unspecified addresses have no wire encoding"]
        [display.record .error .program "unspecified addresses have no wire encoding"]
  | path {name : LocalPath} (parsed : Address.parse text 0 = .ok (.path name)) :
      Refuses display text
        [.treatedAsPath text, .failed "local addresses have no wire encoding"]
        ((if display.trace then
            [display.record .trace .addresses
              s!"Treating {Text.quoted text} as a local socket path"]
          else []) ++
          [display.record .error .program "local addresses have no wire encoding"])

theorem hex_spells (bytes : Bytes) : Text.Spells (Report.hex bytes).toList bytes := by
  rw [Report.hex, String.toList_ofList]
  exact Text.hexEncode_spells bytes

-- A colon stands in every remark and in no hex data.
theorem record_not_hex (display : Display) (level : Level) (source : Source) (message : String)
    (bytes : Bytes) : display.record level source message ≠ Report.hex bytes := by
  intro same
  have colon : ':' ∈ (display.record level source message).toList := by simp [Display.record]
  rw [same] at colon
  obtain ⟨digit, read⟩ := (hex_spells bytes).digits ':' colon
  cases read

theorem readLog_of_parse {text : String} {address : Address}
    (parsed : Address.parse text 0 = .ok address) : AddressText.readLog text =
      match address with
      | .path _ => [.treatedAsPath text]
      | .unspecified | .ip _ _ => [] := by
  rw [Address.parse_eq, AddressText.map_eq_ok_iff] at parsed
  obtain ⟨said, read, rfl⟩ := parsed
  rw [AddressText.readLog, read]
  cases said <;> rfl

theorem readLog_of_fault {text : String} {fault : ArgumentFault}
    (parsed : Address.parse text 0 = .error fault) : AddressText.readLog text = [] := by
  rw [Address.parse_eq, AddressText.map_eq_error_iff] at parsed
  rw [AddressText.readLog, parsed]

theorem refuses_total {text : String}
    (other : ∀ host port, Address.parse text 0 ≠ .ok (.ip host port)) (display : Display) :
    ∃ notices lines, Refuses display text notices lines := by
  cases parsed : Address.parse text 0 with
  | error fault => exact ⟨_, _, .malformed parsed⟩
  | ok address =>
    cases address with
    | ip host port => exact absurd parsed (other host port)
    | unspecified => exact ⟨_, _, .unspecified parsed⟩
    | path name => exact ⟨_, _, .path parsed⟩

section
variable {display : Display} {text : String} {notices : List Notice} {lines : List String}
  (refuses : Refuses display text notices lines)
include refuses

theorem Refuses.encode_eq (tagged withPort : Bool) :
    encode text tagged withPort = ⟨remarks notices, false⟩ := by
  unfold encode
  cases refuses with
  | malformed parsed =>
    simp only [readLog_of_fault parsed, parsed]
    rfl
  | unspecified parsed | path parsed =>
    simp only [readLog_of_parse parsed, parsed]
    rfl

theorem Refuses.output_eq : display.output ⟨remarks notices, false⟩ = Text.unlines lines := by
  rw [Display.output_eq]
  cases refuses with
  | malformed | unspecified =>
    rw [remarks, List.map_singleton,
      List.filterMap_cons_some (Display.eventText_shown rfl display)]
    rfl
  | path =>
    have closing : display.eventText
        (.notice (.failed "local addresses have no wire encoding")) = some _ :=
      Display.eventText_shown rfl display
    have opening : display.Asks (Notice.treatedAsPath text).level ↔ display.trace = true := .rfl
    rw [remarks, List.map_cons, List.map_singleton]
    by_cases traced : display.trace = true
    · rw [if_pos traced,
        List.filterMap_cons_some (Display.eventText_asked (opening.mpr traced)),
        List.filterMap_cons_some closing]
      rfl
    · rw [if_neg traced,
        List.filterMap_cons_none (Display.eventText_unasked (mt opening.mp traced)),
        List.filterMap_cons_some closing]
      rfl

theorem Refuses.recorded : ∀ line ∈ lines, ∃ level source message,
    line = display.record level source message ∧
      ('\n' ∉ text.toList → '\n' ∉ message.toList) := by
  intro line member
  cases refuses with
  | @malformed fault parsed =>
    cases List.mem_singleton.mp member
    refine ⟨_, _, _, rfl, ?_⟩
    intro whole
    rw [Address.parse_eq, AddressText.map_eq_error_iff] at parsed
    simpa [toString] using AddressText.read_line whole parsed
  | unspecified =>
    cases List.mem_singleton.mp member
    exact ⟨_, _, _, rfl, fun _ => by decide⟩
  | path =>
    rcases List.mem_append.mp member with opening | closing
    · split at opening
      · cases List.mem_singleton.mp opening
        refine ⟨_, _, _, rfl, ?_⟩
        simp [toString, Text.quoted_line]
      · cases opening
    · cases List.mem_singleton.mp closing
      exact ⟨_, _, _, rfl, fun _ => by decide⟩

theorem Refuses.not_hex : ∀ line ∈ lines, ∀ bytes, line ≠ Report.hex bytes := by
  intro line member bytes
  obtain ⟨level, source, message, rfl, -⟩ := refuses.recorded line member
  exact record_not_hex display level source message bytes

theorem Refuses.oneLine (whole : '\n' ∉ text.toList) : ∀ line ∈ lines, '\n' ∉ line.toList := by
  intro line member
  obtain ⟨level, source, message, rfl, single⟩ := refuses.recorded line member
  exact Display.record_line display level source (single whole)

end

def leftOver (count length : Nat) : List Notice :=
  if count < length then [.trailingBytes (length - count)] else []

theorem leftOver_text (display : Display) (count length : Nat) (text : String) :
    (remarks (leftOver count length) ++ [Event.line text]).filterMap display.eventText =
      (if count < length then
          [display.record .warn .program s!"Ignoring {length - count} trailing bytes"]
        else []) ++ [text] := by
  unfold leftOver
  split
  · rw [remarks, List.map_singleton, List.singleton_append,
      List.filterMap_cons_some (Display.eventText_shown rfl display)]
    rfl
  · rfl

theorem decodeLog_found {bytes : Bytes} {withPort : Bool} {found : Address × Nat}
    (read : Wire.decode bytes withPort = some found) : Wire.decodeLog bytes = [] := by
  cases bytes with
  | nil => rfl
  | cons tag rest =>
    obtain ⟨family, known, -⟩ := Option.bind_eq_some_iff.mp read
    simp [Wire.decodeLog, known]

theorem decode_found {data : String} {family : Option Version} {withPort : Bool} {bytes : Bytes}
    {address : Address} {count : Nat} (spelled : readData data = .ok bytes)
    (found : Wire.decodeKnown (family.map .ip) withPort bytes = some (address, count)) :
    decode data family withPort =
      ⟨remarks (leftOver count bytes.length) ++ [.line address.text], true⟩ := by
  unfold decode
  cases family with
  | none =>
    have read : Wire.decode bytes withPort = some (address, count) := found
    simp only [spelled, read, decodeLog_found read]
    rfl
  | some version =>
    have read : Wire.decodeAs (.ip version) bytes withPort = some (address, count) := found
    simp only [spelled, read]
    rfl

theorem decode_succeeded {data : String} {family : Option Version} {withPort : Bool}
    (done : (decode data family withPort).succeeded = true) :
    ∃ bytes address count, readData data = .ok bytes ∧
      Wire.decodeKnown (family.map .ip) withPort bytes = some (address, count) := by
  unfold decode at done
  cases spelled : readData data with
  | error fault =>
    rw [spelled] at done
    cases done
  | ok bytes =>
    cases found : Wire.decodeKnown (family.map .ip) withPort bytes with
    | some known => exact ⟨bytes, known.1, known.2, rfl, found⟩
    | none =>
      cases family with
      | none =>
        have refused : Wire.decode bytes withPort = none := found
        simp only [spelled, refused] at done
        cases done
      | some version =>
        have refused : Wire.decodeAs (.ip version) bytes withPort = none := found
        simp only [spelled, refused] at done
        cases done

theorem stripHexMark_spelled {text : List Char} {bytes : Bytes}
    (spells : Text.Spells text bytes) : stripHexMark text = text := by
  cases spells with
  | nil => rfl
  | @cons text bytes high low h l first second rest =>
    unfold stripHexMark
    split
    · rename_i marked
      cases marked
      cases second
    · rfl

theorem unblank_spelled {text : List Char} {bytes : Bytes} (spells : Text.Spells text bytes) :
    ∀ c ∈ text, Text.isBlank c = false := by
  intro c member
  obtain ⟨digit, read⟩ := spells.digits c member
  exact Text.hexDigit?_blank read

theorem head_spelled {text : List Char} {bytes : Bytes} (spells : Text.Spells text bytes) :
    text.head? ≠ some '-' := by
  cases spells with
  | nil => exact fun absent => nomatch absent
  | cons first second rest =>
    intro dash
    cases Option.some.inj dash
    cases first

theorem readData_spelled {data : String} {bytes : Bytes}
    (spells : Text.Spells data.toList bytes) : readData data = .ok bytes := by
  rw [readData, Text.trim_unblank (unblank_spelled spells), stripHexMark_spelled spells]
  exact Text.hexDecode_ok_iff.mpr spells

theorem readData_marked {data : String} {bytes : Bytes}
    (spells : Text.Spells data.toList bytes) : readData ("0x" ++ data) = .ok bytes := by
  have shape : ("0x" ++ data).toList = '0' :: 'x' :: data.toList := by simp
  have unblank : ∀ c ∈ '0' :: 'x' :: data.toList, Text.isBlank c = false := by
    intro c member
    rcases List.mem_cons.mp member with rfl | member
    · rfl
    · rcases List.mem_cons.mp member with rfl | member
      · rfl
      · exact unblank_spelled spells c member
  rw [readData, shape, Text.trim_unblank unblank, stripHexMark, stripHexMark_spelled spells]
  exact Text.hexDecode_ok_iff.mpr spells

def hexForms (line : String) : List String := [line, line.toUpper, "0x" ++ line]

theorem hexForms_read {bytes : Bytes} {written : String}
    (form : written ∈ hexForms (Report.hex bytes)) :
    written.toList.head? ≠ some '-' ∧ readData written = .ok bytes := by
  have lower := hex_spells bytes
  have upper : Text.Spells (Report.hex bytes).toUpper.toList bytes := by
    rw [String.toUpper, String.toList_map]
    exact lower.toUpper
  simp only [hexForms, List.mem_cons, List.not_mem_nil, or_false] at form
  rcases form with rfl | rfl | rfl
  · exact ⟨head_spelled lower, readData_spelled lower⟩
  · exact ⟨head_spelled upper, readData_spelled upper⟩
  · exact ⟨by simp, readData_marked lower⟩

-- What is encoded, with or without its tag and its port, decodes to the address that was meant
-- when decoding is told of the same omissions. What is decoded encodes to the octets that decoding
-- took, and whatever it left over was remarked on. Nothing else is encoded. A fault may repeat the
-- text it is about, line feeds and all, so lines are what is said at once.
structure UndoEachOther (files : String → FileText) (entropy : Generator) (trace color : Bool) :
    Prop where
  hex : ∀ bytes, Text.Spells (Report.hex bytes).toList bytes ∧
    ∀ c ∈ (Report.hex bytes).toList, c ∈ "0123456789abcdef".toList
  encoded : ∀ text host port, Address.parse text 0 = .ok (.ip host port) →
    ∀ tagged withPort, ∃ line, line = Report.hex (Wire.encode (.ip host port) tagged withPort) ∧
      respond files entropy trace color (encodeLine text tagged withPort) =
        some (line ++ "\n", true) ∧
      ∀ data ∈ hexForms line,
        respond files entropy trace color
            (decodeLine data (if tagged then none else some host.version) withPort) =
          some (Address.text (.ip host (if withPort then port else 0)) ++ "\n", true)
  decoded : ∀ arguments verbose data family withPort output,
    Invocation.read arguments = some (.run verbose (.decode data family withPort)) →
    respond files entropy trace color arguments = some (output, true) →
    ∃ bytes address count, readData data = .ok bytes ∧
      Wire.decodeKnown (family.map .ip) withPort bytes = some (address, count) ∧
      count ≤ bytes.length ∧
      output = Text.unlines
        ((if count < bytes.length then
            [Display.record ⟨verbose, trace, color⟩ .warn .program
              s!"Ignoring {bytes.length - count} trailing bytes"]
          else []) ++ [address.text]) ∧
      respond files entropy trace color (encodeLine address.text family.isNone withPort) =
        some (Report.hex (bytes.take count) ++ "\n", true)
  refused : ∀ text, text.toList.head? ≠ some '-' →
    (∀ host port, Address.parse text 0 ≠ .ok (.ip host port)) →
    ∃ notices lines, Refuses ⟨false, trace, color⟩ text notices lines ∧
      (∀ line ∈ lines, ∀ bytes, line ≠ Report.hex bytes) ∧
      ('\n' ∉ text.toList → ∀ line ∈ lines, '\n' ∉ line.toList) ∧
      ∀ tagged withPort, encode text tagged withPort = ⟨remarks notices, false⟩ ∧
        respond files entropy trace color (encodeLine text tagged withPort) =
          some (Text.unlines lines, false)

theorem decode_whole {host : Ip} {port : UInt16} {family : Option Version} {withPort : Bool}
    {written : String} (expected : Wire.Expects (family.map .ip) (.ip host port))
    (read : readData written = .ok (Wire.encode (.ip host port) family.isNone withPort)) :
    decode written family withPort =
      ⟨[.line (Address.text (.ip host (if withPort then port else 0)))], true⟩ := by
  have isIp : (Address.ip host port).family.isIp = true := rfl
  have tag : (family.map Family.ip).isNone = family.isNone := Option.isNone_map
  have found := Wire.decodeKnown_encode isIp expected withPort []
  rw [List.append_nil, tag, ← Wire.encode_length] at found
  rw [decode_found read found, leftOver, if_neg (Nat.lt_irrefl _)]
  rfl

theorem decode_written {host : Ip} {port : UInt16} {tagged withPort : Bool} {written : String}
    (read : readData written = .ok (Wire.encode (.ip host port) tagged withPort)) :
    decode written (if tagged then none else some host.version) withPort =
      ⟨[.line (Address.text (.ip host (if withPort then port else 0)))], true⟩ := by
  cases tagged with
  | true =>
    have expected : Wire.Expects ((none : Option Version).map .ip) (.ip host port) :=
      fun family known => nomatch known
    exact decode_whole expected read
  | false =>
    have expected : Wire.Expects ((some host.version).map .ip) (.ip host port) :=
      fun family known => Option.some.inj known
    exact decode_whole expected read

theorem encode_decoded {family : Option Version} {withPort : Bool} {bytes : Bytes}
    {address : Address} {count : Nat}
    (found : Wire.decodeKnown (family.map .ip) withPort bytes = some (address, count)) :
    ∃ host port, address = .ip host port ∧ count ≤ bytes.length ∧
      Wire.encode address family.isNone withPort = bytes.take count := by
  rcases Wire.decodeKnown_cases (family.map .ip) withPort bytes with
    ⟨-, refused⟩ | ⟨host, port, rest, held, -, shape, read⟩
  · rw [refused] at found
    cases found
  · rw [read] at found
    cases found
    have tag : (family.map Family.ip).isNone = family.isNone := Option.isNone_map
    rw [tag] at shape ⊢
    refine ⟨host, port, rfl, ?_, ?_⟩
    · rw [shape, List.length_append, Wire.encode_length]
      exact Nat.le_add_right _ _
    · rw [shape]
      exact (List.take_left' (Wire.encode_length (.ip host port) family.isNone withPort)).symm

example : decode " 0x7F000001aabb" (some .v4) false =
    ⟨[.notice (.trailingBytes 2), .line "127.0.0.1:0"], true⟩ := by
  decide

end AddressPool.Cli
