import AddressPool.Proofs.Wire.Layout

namespace AddressPool.Wire

structure Cursor.Wrote {capacity : Nat} (buffer done : Bytes) (cursor : Cursor capacity) :
    Prop where
  offset_eq : cursor.offset = done.length
  buffer_eq : cursor.buffer = done ++ buffer.drop done.length

namespace Cursor.Wrote

variable {capacity : Nat} {buffer done : Bytes} {cursor : Cursor capacity}

theorem start (buffer : Bytes) : Wrote buffer [] (Cursor.start buffer) := ⟨rfl, rfl⟩

theorem put (wrote : Wrote buffer done cursor) {octets : Bytes}
    (fits : cursor.offset + octets.length ≤ capacity) :
    Wrote buffer (done ++ octets) (cursor.put octets fits) := by
  obtain ⟨offset_eq, buffer_eq⟩ := wrote
  constructor
  case offset_eq =>
    change cursor.offset + octets.length = _
    rw [offset_eq, List.length_append]
  case buffer_eq =>
    change cursor.buffer.take cursor.offset ++ octets ++
      cursor.buffer.drop (cursor.offset + octets.length) = _
    rw [buffer_eq, offset_eq, List.take_left, List.drop_length_add_append, List.drop_drop,
      List.length_append]

theorem putAll (wrote : Wrote buffer done cursor) {fields : List Bytes}
    (fits : cursor.offset + fields.flatten.length ≤ capacity) :
    Wrote buffer (done ++ fields.flatten) (cursor.putAll fields fits) := by
  induction fields generalizing done cursor with
  | nil =>
    rw [List.flatten_nil, List.append_nil]
    exact wrote
  | cons octets later ih =>
    have room : cursor.offset + octets.length ≤ capacity := by
      rw [List.flatten_cons, List.length_append] at fits
      omega
    rw [List.flatten_cons, ← List.append_assoc]
    exact ih (wrote.put room) _

end Cursor.Wrote

theorem size_eq_zero (family : Family) (tagged withPort : Bool) :
    size family tagged withPort = 0 ↔ family.isIp = false := by
  cases family with
  | ip version =>
    have positive := size_pos version tagged withPort
    exact ⟨fun none => absurd none (Nat.ne_of_gt positive), nofun⟩
  | unspecified | path => exact ⟨fun _ => rfl, fun _ => rfl⟩

theorem writeTo_refused {buffer : Bytes} {address : Address} {tagged withPort : Bool}
    (refused : size address.family tagged withPort = 0 ∨
      buffer.length < size address.family tagged withPort) :
    writeTo buffer address tagged withPort = (0, buffer) :=
  dif_pos refused

theorem writeTo_written {buffer : Bytes} {address : Address} {tagged withPort : Bool}
    (isIp : size address.family tagged withPort ≠ 0)
    (room : size address.family tagged withPort ≤ buffer.length) :
    writeTo buffer address tagged withPort =
      (size address.family tagged withPort,
        encode address tagged withPort ++ buffer.drop (size address.family tagged withPort)) := by
  have accepted : ¬(size address.family tagged withPort = 0 ∨
      buffer.length < size address.family tagged withPort) := by omega
  have fits : 0 + (fields address tagged withPort).flatten.length ≤ buffer.length := by
    rw [fields_length]
    omega
  obtain ⟨offset_eq, buffer_eq⟩ := (Cursor.Wrote.start buffer).putAll fits
  rw [List.nil_append, fields_length] at offset_eq buffer_eq
  rw [writeTo, dif_neg accepted, encode_eq_fields]
  exact Prod.ext offset_eq buffer_eq

theorem writeTo_fresh (address : Address) (tagged withPort : Bool) :
    writeTo (List.replicate (size address.family tagged withPort) 0) address tagged withPort =
      (size address.family tagged withPort, encode address tagged withPort) := by
  by_cases none : size address.family tagged withPort = 0
  · have empty : encode address tagged withPort = [] :=
      List.eq_nil_of_length_eq_zero ((encode_length address tagged withPort).trans none)
    rw [writeTo_refused (.inl none), none, empty]
    rfl
  · have length : (List.replicate (size address.family tagged withPort) (0 : UInt8)).length =
        size address.family tagged withPort := List.length_replicate
    rw [writeTo_written none (Nat.le_of_eq length.symm),
      List.drop_of_length_le (Nat.le_of_eq length), List.append_nil]

-- Either a buffer is long enough for an address that has a wire form, and takes all of that form
-- at its front, or it stays as it was.
structure AllOrNothing (buffer : Bytes) (address : Address) (tagged withPort : Bool)
    (count : Nat) (after : Bytes) : Prop where
  nothing_iff : count = 0 ↔
    address.family.isIp = false ∨ buffer.length < size address.family tagged withPort
  nothing : count = 0 → after = buffer
  count_eq : count ≠ 0 → count = size address.family tagged withPort
  front : count ≠ 0 → after.take count = encode address tagged withPort
  behind : ∀ place, count ≤ place → after[place]? = buffer[place]?
  within : count ≤ buffer.length
  length_eq : after.length = buffer.length
  fresh : writeTo (List.replicate (size address.family tagged withPort) 0) address tagged
    withPort = (size address.family tagged withPort, encode address tagged withPort)

theorem writeTo_allOrNothing (buffer : Bytes) (address : Address) (tagged withPort : Bool) :
    AllOrNothing buffer address tagged withPort (writeTo buffer address tagged withPort).1
      (writeTo buffer address tagged withPort).2 := by
  have length := encode_length address tagged withPort
  by_cases refused : size address.family tagged withPort = 0 ∨
      buffer.length < size address.family tagged withPort
  · rw [writeTo_refused refused]
    have why := refused
    rw [size_eq_zero] at why
    exact {
      nothing_iff := ⟨fun _ => why, fun _ => rfl⟩
      nothing := fun _ => rfl
      count_eq := fun some => absurd rfl some
      front := fun some => absurd rfl some
      behind := fun _ _ => rfl
      within := Nat.zero_le _
      length_eq := rfl
      fresh := writeTo_fresh address tagged withPort }
  · have isIp : size address.family tagged withPort ≠ 0 := fun none => refused (.inl none)
    have room : size address.family tagged withPort ≤ buffer.length :=
      Nat.not_lt.mp fun short => refused (.inr short)
    rw [writeTo_written isIp room]
    constructor
    case nothing_iff =>
      rw [← size_eq_zero _ tagged withPort]
      exact ⟨fun none => .inl none, fun why => absurd why refused⟩
    case nothing => exact fun none => absurd none isIp
    case count_eq => exact fun _ => rfl
    case front => exact fun _ => List.take_left' length
    case behind =>
      intro place behind
      rw [List.getElem?_append_right (length ▸ behind), length, List.getElem?_drop,
        Nat.add_sub_cancel' behind]
    case within => exact room
    case length_eq =>
      rw [List.length_append, length, List.length_drop, Nat.add_sub_cancel' room]
    case fresh => exact writeTo_fresh address tagged withPort

end AddressPool.Wire
