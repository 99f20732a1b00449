import AddressPool.Proofs.Wire.Layout

namespace AddressPool.Wire

def taken : Option (Address × Nat) → Nat × Address
  | some (address, count) => (count, address)
  | none => (0, .unspecified)

def Holds (known : Option Family) (withPort : Bool) (version : Version) (buffer : Bytes) : Prop :=
  size (.ip version) known.isNone withPort ≤ buffer.length ∧
    match known with
    | none => buffer.head? = some (match version with | .v4 => 1 | .v6 => 2)
    | some family => family = .ip version

theorem tag_ip (version : Version) :
    (Family.ip version).tag = match version with | .v4 => 1 | .v6 => 2 := by
  cases version <;> rfl

theorem Holds.unique {known : Option Family} {withPort : Bool} {version other : Version}
    {buffer : Bytes} (one : Holds known withPort version buffer)
    (two : Holds known withPort other buffer) : other = version := by
  obtain ⟨-, one⟩ := one
  obtain ⟨-, two⟩ := two
  cases known with
  | none =>
    have same := Option.some.inj (one.symm.trans two)
    cases version <;> cases other <;> first | rfl | cases same
  | some family =>
    cases one
    exact (Family.ip.inj two).symm

theorem Holds.of_take {known : Option Family} {withPort : Bool} {version : Version}
    {buffer : Bytes} {count : Nat} (held : Holds known withPort version (buffer.take count)) :
    Holds known withPort version buffer ∧ size (.ip version) known.isNone withPort ≤ count := by
  obtain ⟨long, front⟩ := held
  have positive := size_pos version known.isNone withPort
  rw [List.length_take] at long
  refine ⟨⟨by omega, ?_⟩, by omega⟩
  cases known with
  | none =>
    have some : count ≠ 0 := by omega
    simpa [List.head?_take, some] using front
  | some family => exact front

theorem decodeKnown_cases (known : Option Family) (withPort : Bool) (buffer : Bytes) :
    ((∀ version, ¬Holds known withPort version buffer) ∧
      decodeKnown known withPort buffer = none) ∨
    ∃ host port rest, Holds known withPort host.version buffer ∧
      Expects known (.ip host port) ∧
      buffer = encode (.ip host port) known.isNone withPort ++ rest ∧
        decodeKnown known withPort buffer =
          some (.ip host port, size (.ip host.version) known.isNone withPort) := by
  cases known with
  | none =>
    rcases decode_cases buffer withPort with ⟨short, refused⟩ | ⟨host, port, rest, shape, read⟩
    · refine .inl ⟨?_, refused⟩
      intro version held
      obtain ⟨long, front⟩ := held
      rw [← tag_ip] at front
      exact absurd (short version front) (Nat.not_lt.mpr long)
    · refine .inr ⟨host, port, rest, ⟨?_, ?_⟩, fun family known => (nomatch known), shape, read⟩
      · rw [shape, List.length_append, encode_length]
        exact Nat.le_add_right _ _
      · rw [shape, ← tag_ip]
        rfl
  | some family =>
    cases family with
    | ip version =>
      rcases decodeAs_cases version buffer withPort with
        ⟨short, refused⟩ | ⟨host, port, rest, rfl, shape, read⟩
      · refine .inl ⟨?_, refused⟩
        intro other held
        obtain ⟨long, same⟩ := held
        cases same
        exact absurd short (Nat.not_lt.mpr long)
      · refine .inr ⟨host, port, rest, ⟨?_, rfl⟩, fun family known => Option.some.inj known,
          shape, read⟩
        rw [shape, List.length_append, encode_length]
        exact Nat.le_add_right _ _
    | unspecified | path => exact .inl ⟨fun version held => (nomatch held.2), rfl⟩

-- What is decoded depends on the octets taken alone: more behind them change nothing, and fewer
-- are no form at all.
theorem decodeKnown_append {known : Option Family} {withPort : Bool} {host : Ip} {port : UInt16}
    {buffer : Bytes} {count : Nat}
    (read : decodeKnown known withPort buffer = some (.ip host port, count))
    (expected : Expects known (.ip host port)) {rest : Bytes}
    (shape : buffer = encode (.ip host port) known.isNone withPort ++ rest) (tail : Bytes) :
    decodeKnown known withPort (buffer ++ tail) = some (.ip host port, count) := by
  have isIp : (Address.ip host port).family.isIp = true := rfl
  rw [← read, shape, List.append_assoc, decodeKnown_encode isIp expected,
    decodeKnown_encode isIp expected]

theorem decodeKnown_take {known : Option Family} {withPort : Bool} {version : Version}
    {buffer : Bytes} {count : Nat} (held : Holds known withPort version buffer)
    (short : count < size (.ip version) known.isNone withPort) :
    decodeKnown known withPort (buffer.take count) = none := by
  rcases decodeKnown_cases known withPort (buffer.take count) with
    ⟨-, refused⟩ | ⟨host, port, rest, front, -⟩
  · exact refused
  · obtain ⟨whole, bound⟩ := front.of_take
    rw [held.unique whole] at bound
    exact absurd short (Nat.not_lt.mpr bound)

-- A decoder takes exactly what an encoder writes, or nothing.
structure Exact (known : Option Family) (withPort : Bool) (buffer : Bytes) : Prop where
  accepts_iff : 0 < (taken (decodeKnown known withPort buffer)).1 ↔
    ∃ version, Holds known withPort version buffer
  accepted : ∀ version, Holds known withPort version buffer → ∃ address : Address,
    address.family = .ip version ∧ taken (decodeKnown known withPort buffer) =
      (size (.ip version) known.isNone withPort, address)
  image : ∀ count address, taken (decodeKnown known withPort buffer) = (count, address) →
    0 < count → count ≤ buffer.length ∧
      encode address known.isNone withPort = buffer.take count ∧
      (∀ tail, taken (decodeKnown known withPort (buffer ++ tail)) = (count, address)) ∧
      ∀ shorter, shorter < count →
        taken (decodeKnown known withPort (buffer.take shorter)) = (0, .unspecified)
  refused : (∀ version, ¬Holds known withPort version buffer) →
    taken (decodeKnown known withPort buffer) = (0, .unspecified)
  notIp : ∀ family, known = some family → family.isIp = false →
    taken (decodeKnown known withPort buffer) = (0, .unspecified)

theorem exact_none {known : Option Family} {withPort : Bool} {buffer : Bytes}
    (absent : ∀ version, ¬Holds known withPort version buffer)
    (refused : decodeKnown known withPort buffer = none) : Exact known withPort buffer := by
  have nothing : taken (decodeKnown known withPort buffer) = (0, .unspecified) := by
    rw [refused]
    rfl
  constructor
  case accepts_iff =>
    rw [nothing]
    exact ⟨fun positive => absurd positive (Nat.lt_irrefl 0),
      fun held => absurd held.choose_spec (absent _)⟩
  case accepted =>
    intro version held
    exact absurd held (absent version)
  case image =>
    intro count address told positive
    cases nothing.symm.trans told
    exact absurd positive (Nat.lt_irrefl 0)
  case refused => exact fun _ => nothing
  case notIp => exact fun _ _ _ => nothing

theorem exact_some {known : Option Family} {withPort : Bool} {host : Ip} {port : UInt16}
    {buffer rest : Bytes} (held : Holds known withPort host.version buffer)
    (expected : Expects known (.ip host port))
    (shape : buffer = encode (.ip host port) known.isNone withPort ++ rest)
    (read : decodeKnown known withPort buffer =
      some (.ip host port, size (.ip host.version) known.isNone withPort)) :
    Exact known withPort buffer := by
  have told : taken (decodeKnown known withPort buffer) =
      (size (.ip host.version) known.isNone withPort, .ip host port) := by
    rw [read]
    rfl
  constructor
  case accepts_iff =>
    rw [told]
    exact ⟨fun _ => ⟨_, held⟩, fun _ => size_pos _ _ _⟩
  case accepted =>
    intro version other
    cases held.unique other
    exact ⟨_, rfl, told⟩
  case image =>
    intro count address same positive
    cases told.symm.trans same
    refine ⟨held.1, ?_, ?_, ?_⟩
    · rw [shape]
      exact (List.take_left' (encode_length (.ip host port) known.isNone withPort)).symm
    · intro tail
      rw [decodeKnown_append read expected shape]
      rfl
    · intro shorter short
      rw [decodeKnown_take held short]
      rfl
  case refused =>
    intro absent
    exact absurd held (absent _)
  case notIp =>
    intro family known_eq notIp
    subst known_eq
    cases held.2
    cases notIp

theorem decodeKnown_exact (known : Option Family) (withPort : Bool) (buffer : Bytes) :
    Exact known withPort buffer := by
  rcases decodeKnown_cases known withPort buffer with
    ⟨absent, refused⟩ | ⟨host, port, rest, held, expected, shape, read⟩
  · exact exact_none absent refused
  · exact exact_some held expected shape read

theorem decodeKnown_exact_trailing :
    let buffer : Bytes := [1, 10, 0, 0, 1, 0, 22, 0xaa, 0xbb]
    Holds none true .v4 buffer ∧ Exact none true buffer :=
  ⟨⟨by decide, rfl⟩, decodeKnown_exact _ _ _⟩

end AddressPool.Wire
