import AddressPool.Proofs.Network.Pool

namespace AddressPool

def Version.rank : Version → Nat
  | v4 => 4
  | v6 => 6

namespace Block

theorem contains_iff_quotient (block : Block) (ip : Ip) :
    block.contains ip = true ↔ ip.version = block.version ∧
      ip.value / 2 ^ block.hostBits = block.host.value / 2 ^ block.hostBits := by
  have positive : 0 < 2 ^ block.hostBits := Nat.two_pow_pos _
  simp only [contains, Bool.and_eq_true, decide_eq_true_eq, beq_iff_eq, base, cleared_eq]
  rw [Nat.mul_right_inj (Nat.ne_of_gt positive)]

def Covers (outer inner : Block) : Prop :=
  ∀ ip, inner.contains ip = true → outer.contains ip = true

theorem hostBits_le_iff {here there : Block} (same : here.version = there.version) :
    here.hostBits ≤ there.hostBits ↔ there.maskSize ≤ here.maskSize := by
  have bounded : here.maskSize ≤ here.version.width := here.maskSize_le
  have other : there.maskSize ≤ there.version.width := there.maskSize_le
  rw [hostBits, hostBits, same] at *
  omega

-- One shared address settles all of them: fewer bits are compared by the wider network.
theorem covers_of_shared {outer inner : Block} {ip : Ip} (within : outer.contains ip = true)
    (shared : inner.contains ip = true) (wider : outer.maskSize ≤ inner.maskSize) :
    outer.Covers inner := by
  rw [contains_iff_quotient] at within shared
  have version : inner.version = outer.version := shared.1.symm.trans within.1
  have fewer : inner.hostBits ≤ outer.hostBits := (hostBits_le_iff version).mpr wider
  have split : 2 ^ outer.hostBits = 2 ^ inner.hostBits * 2 ^ (outer.hostBits - inner.hostBits) := by
    rw [← Nat.pow_add, Nat.add_sub_cancel' fewer]
  intro other inside
  rw [contains_iff_quotient] at inside ⊢
  refine ⟨inside.1.trans version, ?_⟩
  calc
    other.value / 2 ^ outer.hostBits
      = other.value / 2 ^ inner.hostBits / 2 ^ (outer.hostBits - inner.hostBits) := by
        rw [split, Nat.div_div_eq_div_mul]
    _ = ip.value / 2 ^ inner.hostBits / 2 ^ (outer.hostBits - inner.hostBits) := by
        rw [inside.2, shared.2]
    _ = ip.value / 2 ^ outer.hostBits := by rw [split, Nat.div_div_eq_div_mul]
    _ = outer.host.value / 2 ^ outer.hostBits := within.2

theorem contains_first (block : Block) : block.contains (block.ipAt block.base) = true :=
  block.contains_ipAt (Nat.le_refl _) block.base_le_last

theorem Covers.ends {outer inner : Block} (covers : outer.Covers inner) :
    inner.version = outer.version ∧ outer.base ≤ inner.base ∧ inner.last ≤ outer.last := by
  have firstIn := covers _ inner.contains_first
  have lastIn := covers _ (inner.contains_ipAt inner.base_le_last (Nat.le_refl _))
  rw [contains_iff, inner.ipAt_value inner.base_le_last] at firstIn
  rw [contains_iff, inner.ipAt_value (Nat.le_refl _)] at lastIn
  exact ⟨firstIn.1, firstIn.2.1, lastIn.2.2⟩

theorem Covers.maskSize_le {outer inner : Block} (covers : outer.Covers inner) :
    outer.maskSize ≤ inner.maskSize := by
  obtain ⟨version, first, last⟩ := covers.ends
  have narrower : 2 ^ inner.hostBits ≤ 2 ^ outer.hostBits := by
    have innerEnd := inner.last_succ
    have outerEnd := outer.last_succ
    omega
  exact (hostBits_le_iff version).mp ((Nat.pow_le_pow_iff_right (by decide)).mp narrower)

theorem covers_iff (outer inner : Block) : outer.Covers inner ↔
    inner.version = outer.version ∧ outer.maskSize ≤ inner.maskSize ∧
      outer.contains (inner.ipAt inner.base) = true := by
  constructor
  · intro covers
    exact ⟨covers.ends.1, covers.maskSize_le, covers _ inner.contains_first⟩
  · rintro ⟨-, wider, first⟩
    exact covers_of_shared first inner.contains_first wider

theorem compare_eq_lex : Block.compare =
    compareLex (compareOn fun block => block.version.rank)
      (compareLex (compareOn base) (compareOn maskSize)) := by
  funext here there
  rfl

instance : Std.TransCmp Block.compare := by
  rw [compare_eq_lex]
  infer_instance

theorem compare_isLE_iff (here there : Block) : (Block.compare here there).isLE = true ↔
    here.version.rank < there.version.rank ∨ here.version.rank = there.version.rank ∧
      (here.base < there.base ∨ here.base = there.base ∧ here.maskSize ≤ there.maskSize) := by
  simp only [compare_eq_lex, compareLex, compareOn, Ordering.isLE_then_iff_or, Nat.compare_eq_lt,
    Nat.compare_eq_eq, Nat.isLE_compare]

theorem compare_versions {here there : Block} (four : here.version = .v4)
    (six : there.version = .v6) : Block.compare here there = .lt := by
  have ranks : here.version.rank < there.version.rank := by
    rw [four, six]
    decide
  rw [compare_eq_lex, compareLex, compareOn, Nat.compare_eq_lt.mpr ranks]
  rfl

theorem Covers.compare_isLE {outer inner : Block} (covers : outer.Covers inner) :
    (Block.compare outer inner).isLE = true := by
  obtain ⟨version, first, -⟩ := covers.ends
  have wider := covers.maskSize_le
  rw [compare_isLE_iff, version]
  omega

end Block

namespace Network

def Covers (outer inner : Network) : Prop :=
  ∀ address, inner.contains address = true → outer.contains address = true

theorem contains_iff (network : Network) (address : Address) : network.contains address = true ↔
    ∃ ip, address.host? = some ip ∧ network.block.contains ip = true := by
  rw [contains, Option.any_eq_true]

theorem covers_iff_block (outer inner : Network) :
    outer.Covers inner ↔ outer.block.Covers inner.block := by
  constructor
  · intro covers ip inside
    exact covers (.ofIp ip) inside
  · intro covers address inside
    obtain ⟨ip, host, inside⟩ := (contains_iff _ _).mp inside
    exact (contains_iff _ _).mpr ⟨ip, host, covers ip inside⟩

theorem nested {one other : Network} {address : Address} (here : one.contains address = true)
    (there : other.contains address = true) : one.Covers other ∨ other.Covers one := by
  obtain ⟨ip, host, here⟩ := (contains_iff _ _).mp here
  obtain ⟨again, same, there⟩ := (contains_iff _ _).mp there
  cases Option.some.inj (host.symm.trans same)
  rw [covers_iff_block, covers_iff_block]
  rcases Nat.le_total one.block.maskSize other.block.maskSize with wider | wider
  · exact .inl (Block.covers_of_shared here there wider)
  · exact .inr (Block.covers_of_shared there here wider)

theorem covers_iff (outer inner : Network) : outer.Covers inner ↔
    inner.block.version = outer.block.version ∧ outer.block.maskSize ≤ inner.block.maskSize ∧
      outer.contains (.ofIp inner.first) = true := by
  rw [covers_iff_block, Block.covers_iff]
  rfl

instance : Std.TransOrd Network where
  eq_swap := by
    intro one other
    change Block.compare one.block other.block = (Block.compare other.block one.block).swap
    exact Std.OrientedCmp.eq_swap
  isLE_trans := by
    intro one other third first second
    change (Block.compare one.block third.block).isLE = true
    change (Block.compare one.block other.block).isLE = true at first
    change (Block.compare other.block third.block).isLE = true at second
    exact Std.TransCmp.isLE_trans first second

theorem same_of_isLE {one other : Network} (before : (compare one other).isLE = true)
    (after : (compare other one).isLE = true) : one.block.Same other.block :=
  (Block.compare_eq_iff _ _).mp (Std.OrientedCmp.isLE_antisymm before after)

theorem Covers.compare_isLE {outer inner : Network} (covers : outer.Covers inner) :
    (compare outer inner).isLE = true :=
  ((covers_iff_block outer inner).mp covers).compare_isLE

def Sorted (networks : List Network) : Prop :=
  networks.Pairwise fun earlier later => (compare earlier later).isLE = true

theorem Sorted.before {networks : List Network} (sorted : Sorted networks) {outer inner : Network}
    {i j : Nat} (outerAt : networks[i]? = some outer) (innerAt : networks[j]? = some inner)
    (covers : outer.Covers inner) (proper : ¬outer.block.Same inner.block) : i < j := by
  obtain ⟨outerIn, rfl⟩ := List.getElem?_eq_some_iff.mp outerAt
  obtain ⟨innerIn, rfl⟩ := List.getElem?_eq_some_iff.mp innerAt
  by_contra later
  apply proper
  rcases Nat.lt_or_eq_of_le (Nat.le_of_not_lt later) with behind | same
  · have order := List.pairwise_iff_getElem.mp sorted j i innerIn outerIn behind
    exact same_of_isLE covers.compare_isLE order
  · subst same
    exact ⟨rfl, rfl, rfl⟩

-- Networks that share addresses lie one inside the other, and in their order the one that is
-- around comes first.
structure Nests (one other : Network) : Prop where
  nested : (∃ address, one.contains address = true ∧ other.contains address = true) →
    one.Covers other ∨ other.Covers one
  covers_iff : one.Covers other ↔ other.block.version = one.block.version ∧
    one.block.maskSize ≤ other.block.maskSize ∧ one.contains (.ofIp other.first) = true
  total : (compare one other).isLE = true ∨ (compare other one).isLE = true
  swap : compare one other = (compare other one).swap
  antisymm : (compare one other).isLE = true → (compare other one).isLE = true →
    one.block.Same other.block
  trans : ∀ third, (compare one other).isLE = true → (compare other third).isLE = true →
    (compare one third).isLE = true
  equal : compare one other = .eq ↔ one.block.Same other.block
  versions : one.block.version = .v4 → other.block.version = .v6 → compare one other = .lt
  around : one.Covers other → (compare one other).isLE = true
  sorted : ∀ networks, Sorted networks → ∀ i j : Nat,
    networks[i]? = some one → networks[j]? = some other → one.Covers other →
      ¬one.block.Same other.block → i < j

theorem networks_nest (one other : Network) : Nests one other where
  nested := by
    intro shared
    obtain ⟨address, here, there⟩ := shared
    exact nested here there
  covers_iff := covers_iff one other
  total := by
    have swap : compare one other = (compare other one).swap := Std.OrientedCmp.eq_swap
    rw [swap]
    cases compare other one <;> simp
  swap := Std.OrientedCmp.eq_swap
  antisymm := same_of_isLE
  trans := fun third first second => Std.TransCmp.isLE_trans first second
  equal := Block.compare_eq_iff one.block other.block
  versions := Block.compare_versions
  around := Covers.compare_isLE
  sorted := fun networks sorted i j oneAt otherAt covers proper =>
    sorted.before oneAt otherAt covers proper

end Network
end AddressPool
