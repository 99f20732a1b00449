import AddressPool.Proofs.Bytes
import AddressPool.Proofs.LocalPath
import AddressPool.Proofs.Wire.Layout

namespace AddressPool

theorem LocalPath.compare_raw (name other : LocalPath) :
    compare name.raw other.raw = compare name.bytes other.bytes := by
  have least : ∀ octet : UInt8, octet ≠ 0 → compare 0 octet = .lt := by
    intro octet nonzero
    have positive : 0 < octet.toNat :=
      Nat.pos_of_ne_zero fun zero => nonzero (UInt8.toNat_inj.mp zero)
    rw [UInt8.compare_eq_toNat_compare_toNat]
    exact Nat.compare_eq_lt.mpr positive
  rw [bytes_eq, bytes_eq, compare_unpadded least (name.raw_length.trans other.raw_length.symm)]

namespace Ip

def AllOnes (host : Ip) : Prop := ∀ octet ∈ host.octets, octet = 255

def highest (version : Version) : Ip := wrap version (version.count - 1)

theorem highest_value (version : Version) : (highest version).value + 1 = version.count := by
  cases version <;> rfl

theorem octets_highest (version : Version) :
    (highest version).octets = List.replicate version.octetCount 255 := by
  cases version <;> rfl

theorem allOnes_iff {host : Ip} : host.AllOnes ↔ host.value + 1 = host.version.count := by
  constructor
  · intro ones
    have octets : host.octets = (highest host.version).octets := by
      rw [octets_highest, ← host.octets_length]
      exact List.eq_replicate_of_mem ones
    have same : host = highest host.version := octets_injective rfl octets
    rw [same]
    exact highest_value host.version
  · intro top octet member
    have value := highest_value host.version
    have same : host = highest host.version := Ip.ext rfl (by omega)
    rw [same, octets_highest] at member
    exact List.eq_of_mem_replicate member

theorem successor_value {host : Ip} (more : ¬host.AllOnes) :
    host.successor.value = host.value + 1 := by
  have small := host.value_lt
  rw [allOnes_iff] at more
  exact Nat.mod_eq_of_lt (by omega)

theorem successor_allOnes {host : Ip} (last : host.AllOnes) : host.successor.value = 0 := by
  change (host.value + 1) % host.version.count = 0
  rw [allOnes_iff.mp last, Nat.mod_self]

end Ip

namespace Address

-- The order of addresses looks at four things one after another. An address that does not have one
-- of them has the least in its place.

def number (address : Address) : Nat := address.host?.elim 0 Ip.value

def rawName (address : Address) : Bytes := address.name?.elim [] LocalPath.raw

theorem compare_eq_lex : Address.compare =
    compareLex (compareOn fun address => address.family.tag)
      (compareLex (compareOn number) (compareLex (compareOn port) (compareOn rawName))) := by
  funext a b
  change (compare a.family.tag b.family.tag).then _ = (compare a.family.tag b.family.tag).then _
  cases rank : compare a.family.tag b.family.tag with
  | lt | gt => rfl
  | eq =>
    have same := Family.tag_injective (Std.compare_eq_iff_eq.mp rank)
    cases a with
    | unspecified => cases b <;> first | rfl | cases same
    | ip host port =>
      cases b with
      | ip other port' =>
        change (compare host.value other.value).then (compare port port') =
          (compare host.value other.value).then ((compare port port').then .eq)
        rw [Ordering.then_eq]
      | unspecified | path => cases same
    | path name => cases b <;> first | rfl | cases same

instance : Std.TransOrd Address := by
  change Std.TransCmp Address.compare
  rw [compare_eq_lex]
  infer_instance

instance : Std.LawfulEqOrd Address where
  compare_self := Std.compare_self
  eq_of_compare := by
    intro a b same
    change Address.compare a b = .eq at same
    simp only [compare_eq_lex, compareLex, compareOn, Ordering.then_eq_eq,
      Std.compare_eq_iff_eq] at same
    obtain ⟨tags, numbers, ports, names⟩ := same
    have family := Family.tag_injective tags
    cases a with
    | unspecified =>
      cases b with
      | unspecified => rfl
      | ip | path => cases family
    | ip host port =>
      cases b with
      | ip other port' =>
        have hosts : host = other := Ip.ext (Family.ip.inj family) numbers
        exact congr (congrArg ip hosts) ports
      | unspecified | path => cases family
    | path name =>
      cases b with
      | path other => exact congrArg path (LocalPath.ext names)
      | unspecified | ip => cases family

theorem compare_of_tag_lt {a b : Address} (before : a.family.tag < b.family.tag) :
    compare a b = .lt := by
  have ranks : compare a.family.tag b.family.tag = .lt := by
    rw [UInt8.compare_eq_toNat_compare_toNat]
    exact Nat.compare_eq_lt.mpr before
  change (compare a.family.tag b.family.tag).then _ = .lt
  rw [ranks]
  rfl

theorem compare_path (name other : LocalPath) :
    compare (path name) (path other) = compare name.bytes other.bytes :=
  name.compare_raw other

theorem compare_ip {host other : Ip} (same : host.version = other.version) (port port' : UInt16) :
    compare (ip host port) (ip other port') =
      (compare host.value other.value).then (compare port port') := by
  change (compare (Family.ip host.version).tag (Family.ip other.version).tag).then _ = _
  rw [same, Std.compare_self]
  rfl

theorem compare_encode {a b : Address} (isIp : a.family.isIp = true)
    (isIp' : b.family.isIp = true) :
    compare a b = compare (Wire.encode a true true) (Wire.encode b true true) := by
  cases a with
  | unspecified | path => cases isIp
  | ip host port =>
    cases b with
    | unspecified | path => cases isIp'
    | ip other port' =>
      rw [Wire.encode_tagged, Wire.encode_tagged, List.compare_cons_cons]
      change (compare (Family.ip host.version).tag (Family.ip other.version).tag).then _ = _
      cases rank : compare (Family.ip host.version).tag (Family.ip other.version).tag with
      | lt | gt => rfl
      | eq =>
        have same := Family.ip.inj (Family.tag_injective (Std.compare_eq_iff_eq.mp rank))
        have lengths : host.octets.length = other.octets.length := by
          rw [Ip.octets_length, Ip.octets_length, same]
        have ports : compare (Bytes.bigEndian 2 port.toNat) (Bytes.bigEndian 2 port'.toNat) =
            compare port port' := by
          rw [Bytes.compare_bigEndian port.toNat_lt port'.toNat_lt,
            UInt16.compare_eq_toNat_compare_toNat]
        have hosts : compare host.octets other.octets = compare host.value other.value := by
          rw [Ip.octets, Ip.octets, ← same]
          apply Bytes.compare_bigEndian
          · rw [Ip.count_octets]
            exact host.value_lt
          · rw [Ip.count_octets, same]
            exact other.value_lt
        rw [Wire.encode_untagged, Wire.encode_untagged, compare_append lengths, if_pos rfl,
          if_pos rfl, hosts, ports]

theorem compare_hosts {host other : Ip} (same : host.version = other.version) (port : UInt16) :
    compare (ip host port) (ip other port) = compare host.value other.value := by
  rw [compare_ip same, Std.compare_self, Ordering.then_eq]

theorem exists_host {address : Address} {version : Version} {port : UInt16}
    (family : address.family = .ip version) (ported : address.port = port) :
    ∃ host, host.version = version ∧ address = ip host port := by
  cases address with
  | ip host any => exact ⟨host, Family.ip.inj family, congrArg (ip host) ported⟩
  | unspecified | path => cases family

-- How two addresses are ordered: there is one total order, it puts families first, and within the
-- families it is the order of the octets that addresses are written in.
structure OctetOrder (a b : Address) : Prop where
  trichotomy :
    compare a b = .lt ∧ a ≠ b ∧ compare b a ≠ .lt ∨
    compare a b ≠ .lt ∧ a = b ∧ compare b a ≠ .lt ∨
    compare a b ≠ .lt ∧ a ≠ b ∧ compare b a = .lt
  gt_iff : compare a b = .gt ↔ compare b a = .lt
  trans : ∀ c, compare a b = .lt → compare b c = .lt → compare a c = .lt
  families : [Family.unspecified, .ip .v4, .ip .v6, .path].Pairwise fun earlier later =>
    a.family = earlier → b.family = later → compare a b = .lt
  wire : a.family.isIp = true → b.family.isIp = true →
    compare a b = compare (Wire.encode a true true) (Wire.encode b true true)
  names : ∀ name other, a = path name → b = path other →
    compare a b = compare name.bytes other.bytes
  shorter : ∀ name other, a = path name → b = path other → name.bytes <+: other.bytes →
    name.bytes ≠ other.bytes → compare a b = .lt

structure Succession (host : Ip) (port : UInt16) (next : Address) : Prop where
  increment_eq : (ip host port).increment = .ok next
  family_eq : next.family = .ip host.version
  port_eq : next.port = port
  above : ¬host.AllOnes → compare (ip host port) next = .lt
  adjacent : ¬host.AllOnes → ∀ other, other.family = .ip host.version → other.port = port →
    ¬(compare (ip host port) other = .lt ∧ compare other next = .lt)
  least : host.AllOnes → ∀ other, other.family = .ip host.version → other.port = port →
    (compare next other).isLE = true

theorem octetOrder (a b : Address) : OctetOrder a b := by
  have ranks : [Family.unspecified, .ip .v4, .ip .v6, .path].Pairwise fun earlier later =>
      earlier.tag < later.tag := by decide
  have names : ∀ name other, a = path name → b = path other →
      compare a b = compare name.bytes other.bytes := by
    rintro name other rfl rfl
    exact compare_path name other
  constructor
  case trichotomy =>
    have eq_iff : compare a b = .eq ↔ a = b := Std.compare_eq_iff_eq
    have gt_iff : compare a b = .gt ↔ compare b a = .lt := Std.OrientedCmp.gt_iff_lt
    simp only [ne_eq, ← eq_iff, ← gt_iff]
    cases compare a b <;> decide
  case gt_iff => exact Std.OrientedCmp.gt_iff_lt
  case trans => exact fun c => Std.TransCmp.lt_trans
  case families =>
    apply ranks.imp
    rintro earlier later before rfl rfl
    exact compare_of_tag_lt before
  case wire => exact compare_encode
  case names => exact names
  case shorter =>
    intro name other here there begins proper
    rw [names name other here there]
    exact compare_prefix begins proper

theorem succession (host : Ip) (port : UInt16) :
    Succession host port (ip host.successor port) := by
  have version : host.version = host.successor.version := rfl
  constructor
  case increment_eq => rfl
  case family_eq => rfl
  case port_eq => rfl
  case above =>
    intro more
    rw [compare_hosts version, Ip.successor_value more]
    exact Nat.compare_eq_lt.mpr (Nat.lt_succ_self _)
  case adjacent =>
    rintro more other family ported ⟨above, below⟩
    obtain ⟨between, same, rfl⟩ := exists_host family ported
    rw [compare_hosts same.symm] at above
    rw [compare_hosts (same.trans version), Ip.successor_value more] at below
    have lower := Nat.compare_eq_lt.mp above
    have upper := Nat.compare_eq_lt.mp below
    omega
  case least =>
    intro last other family ported
    obtain ⟨any, same, rfl⟩ := exists_host family ported
    rw [compare_hosts (version.symm.trans same.symm), Ip.successor_allOnes last, Nat.isLE_compare]
    exact Nat.zero_le _

theorem ordered_by_octets : (∀ a b : Address, OctetOrder a b) ∧
    ∀ (host : Ip) (port : UInt16), ∃ next, Succession host port next :=
  ⟨octetOrder, fun host port => ⟨_, succession host port⟩⟩

end Address
end AddressPool
