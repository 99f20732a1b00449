import AddressPool.Address.Basic
import Mathlib.Logic.Function.Basic

namespace AddressPool

namespace Fingerprint

-- Every step of the mixing can be undone, so where all that went in before is the same, no two
-- values give the same result.

theorem xor_bijective (seed : UInt64) : Function.Bijective (seed ^^^ ·) := by
  have undone : Function.Involutive (seed ^^^ ·) := by
    intro value
    simp only [← UInt64.xor_assoc, UInt64.xor_self, UInt64.zero_xor]
  exact undone.bijective

theorem plus_bijective (amount : UInt64) : Function.Bijective (· + amount) := by
  refine Function.bijective_iff_has_inverse.mpr ⟨(· - amount), ?_, ?_⟩
  · intro value
    exact UInt64.add_sub_cancel value amount
  · intro value
    exact UInt64.sub_add_cancel value amount

-- The multiplier is odd, so another word takes it back.
def divisor : UInt64 := 0x2040003d780970bd

theorem times_bijective : Function.Bijective (· * multiplier) := by
  have cancels : multiplier * divisor = 1 := by decide
  have returns : divisor * multiplier = 1 := by decide
  refine Function.bijective_iff_has_inverse.mpr ⟨(· * divisor), ?_, ?_⟩
  · intro value
    simp only [UInt64.mul_assoc, cancels, UInt64.mul_one]
  · intro value
    simp only [UInt64.mul_assoc, returns, UInt64.mul_one]

theorem toBitVec_add (state value : UInt64) :
    (add state value).toBitVec =
      (state.toBitVec.rotateLeft 5 ^^^ value.toBitVec) * 0x517cc1b727220a95#64 :=
  rfl

theorem add_bijective (state : UInt64) : Function.Bijective (add state) :=
  times_bijective.comp (xor_bijective (state <<< 5 ||| state >>> 59))

theorem combine_bijective (seed : UInt64) : Function.Bijective (combine seed) := by
  have fixed := plus_bijective 0x9e3779b9
  have raised := (plus_bijective (seed <<< 6)).comp fixed
  have lowered := (plus_bijective (seed >>> 2)).comp raised
  exact (xor_bijective seed).comp lowered

end Fingerprint

namespace Address

theorem fingerprint_ip (host : Ip) (port : UInt16) :
    (ip host port).fingerprint =
      Fingerprint.combine (Fingerprint.combine (Family.ip host.version).tag.toUInt64
        (Fingerprint.ofBytes host.octets)) (Fingerprint.add 0 port.toUInt64) :=
  rfl

theorem fingerprint_port_injective (host : Ip) :
    Function.Injective fun port => (ip host port).fingerprint := by
  intro port other same
  simp only [fingerprint_ip] at same
  have words := (Fingerprint.combine_bijective _).injective same
  have ports := (Fingerprint.add_bijective 0).injective words
  exact UInt16.toUInt64_inj.mp ports

theorem fingerprint_separates :
    (∀ state value, (Fingerprint.add state value).toBitVec =
        (state.toBitVec.rotateLeft 5 ^^^ value.toBitVec) * 0x517cc1b727220a95#64) ∧
      (∀ host port other,
        (ip host port).fingerprint = (ip host other).fingerprint ↔ port = other) ∧
      ∀ seed, Function.Bijective (Fingerprint.combine seed) := by
  refine ⟨Fingerprint.toBitVec_add, ?_, Fingerprint.combine_bijective⟩
  intro host port other
  exact (fingerprint_port_injective host).eq_iff

end Address
end AddressPool
