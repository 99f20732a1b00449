import AddressPool.Proofs.Network.Walk

namespace AddressPool

-- Arithmetic in words of a fixed width. There is no result where the exact one does not fit: a sum
-- beyond the width, a difference below zero, a shift by the whole width, a remainder of nothing.
namespace Word

def fit? (width n : Nat) : Option Nat := if n < 2 ^ width then some n else none

def add? (width a b : Nat) : Option Nat := fit? width (a + b)

def sub? (a b : Nat) : Option Nat := if b ≤ a then some (a - b) else none

def shiftLeft? (width a count : Nat) : Option Nat :=
  if count < width then fit? width (a <<< count) else none

def shiftRight? (width a count : Nat) : Option Nat :=
  if count < width then some (a >>> count) else none

def mod? (a b : Nat) : Option Nat := if b = 0 then none else some (a % b)

theorem fit?_eq {width n : Nat} (fits : n < 2 ^ width) : fit? width n = some n :=
  if_pos fits

theorem fit?_below {width limit : Nat} (fits : limit ≤ 2 ^ width) (n : Nat) :
    (fit? width n).filter (· < limit) = if n < limit then some n else none := by
  by_cases below : n < limit
  · rw [fit?_eq (by omega)]
    simp [below]
  · have beyond : limit ≤ n := by omega
    unfold fit?
    split <;> simp [beyond]

theorem sub?_eq {a b : Nat} (enough : b ≤ a) : sub? a b = some (a - b) :=
  if_pos enough

theorem sub?_each {things : List Nat} {counts : Nat → Bool} {n : Nat}
    (enough : things.countP counts ≤ n) :
    things.foldlM (fun left thing => if counts thing then sub? left 1 else some left) n =
      some (n - things.countP counts) := by
  induction things generalizing n with
  | nil => rfl
  | cons thing things ih =>
    rw [List.foldlM_cons]
    cases counted : counts thing with
    | true =>
      rw [List.countP_cons_of_pos counted] at enough ⊢
      have here : sub? n 1 = some (n - 1) := sub?_eq (by omega)
      rw [if_pos rfl, here, Option.bind_eq_bind, Option.bind_some, ih (by omega)]
      congr 1
      omega
    | false =>
      have skipped : ¬counts thing = true := by simp [counted]
      rw [List.countP_cons_of_neg skipped] at enough ⊢
      exact ih enough

end Word

namespace Network

-- What a network computes, in words: masks in 8 bits, distances and counts in 64, and the numbers
-- of addresses in 128, or in 32 where an IPv4 address is made of them.

def hostBitsWord? (network : Network) : Option Nat := do
  let width ← Word.fit? 8 network.block.version.width
  let maskSize ← Word.fit? 8 network.block.maskSize
  Word.sub? width maskSize

def hostMaskWord? (network : Network) : Option Nat := do
  let count ← Word.sub? 128 (← network.hostBitsWord?)
  some ((Word.shiftRight? 128 (2 ^ 128 - 1) count).getD 0)

def clearedWord (network : Network) (value : Nat) : Nat :=
  value &&& (2 ^ 128 - 1 - network.block.hostMask)

def sizeWord? (network : Network) : Option Nat := do
  let bits ← network.hostBitsWord?
  if 64 ≤ bits then some (2 ^ 64 - 1) else Word.shiftLeft? 64 1 bits

def ipWord? (network : Network) (value : Nat) : Option Ip :=
  (Word.fit? network.block.version.width value).map network.block.ipAt

def ipAtWord? (network : Network) (offset : Nat) : Option Ip := do
  network.ipWord? (← Word.add? 128 network.block.base offset)

def gatewayWord? (network : Network) : Option Ip :=
  let host := network.block.host.value
  if host ≠ network.block.base ∧ host ≠ network.block.last then network.ipWord? host
  else if 2 < network.size then network.ipAtWord? 1
  else network.ipWord? network.block.base

def offsetWord? (network : Network) (address : Address) : Option (Option Nat) :=
  match address.host?.filter network.block.contains with
  | none => some none
  | some ip => do
    let offset ← Word.sub? ip.value network.block.base
    some ((Word.fit? 64 offset).filter (· < network.size))

def mappedOffsetWord? (network : Network) (identifier : Bytes) : Option Nat :=
  Word.mod? (Bytes.ofBigEndian ((Sha256.digest identifier).take 8)) network.size

def followingWord? (network : Network) (offset : Nat) : Option Nat := do
  let next ← Word.add? 64 offset 1
  some (if network.size ≤ next then 0 else next)

def lastOffsetWord? (network : Network) : Option Nat :=
  (Word.fit? 64 network.block.hostMask).filter (· < network.size)

def poolSizeWord? (network : Network) : Option Nat :=
  if network.size ≤ 2 then some network.size
  else do
    let inner ← Word.sub? network.size 1
    Word.sub? inner (if network.lastOffsetWord?.isSome then 1 else 0)

def poolUsedWord? (network : Network) : Option Nat := do
  let count ← Word.fit? 64 network.reserved.size
  network.edges.foldlM (fun left edge =>
    if network.reserved.contains edge then Word.sub? left 1 else some left) count

theorem size_lt_word (network : Network) : network.size < 2 ^ 64 := by
  rw [size_eq]
  omega

theorem hostBitsWord?_eq (network : Network) :
    network.hostBitsWord? = some network.block.hostBits := by
  have widest := Block.width_le network.block.version
  have bounded : network.block.maskSize ≤ network.block.version.width := network.block.maskSize_le
  have width : Word.fit? 8 network.block.version.width = some network.block.version.width :=
    Word.fit?_eq (by omega)
  have mask : Word.fit? 8 network.block.maskSize = some network.block.maskSize :=
    Word.fit?_eq (by omega)
  rw [hostBitsWord?, width, mask]
  exact Word.sub?_eq bounded

theorem hostMaskWord?_eq (network : Network) :
    network.hostMaskWord? = some network.block.hostMask := by
  have count : Word.sub? 128 network.block.hostBits = some (128 - network.block.hostBits) :=
    Word.sub?_eq network.block.hostBits_le_width
  rw [hostMaskWord?, hostBitsWord?_eq, Option.bind_eq_bind, Option.bind_some, count]
  change some ((Word.shiftRight? 128 (2 ^ 128 - 1) (128 - network.block.hostBits)).getD 0) = _
  by_cases single : network.block.hostBits = 0
  · rw [Block.hostMask_eq, single]
    rfl
  · rw [Word.shiftRight?, if_pos (by omega)]
    rfl

theorem clearedWord_eq (network : Network) {value : Nat} (fits : value < 2 ^ 128) :
    network.clearedWord value = network.block.cleared value := by
  have masked : network.block.hostMask < 2 ^ 128 :=
    Nat.lt_of_lt_of_le network.block.hostMask_lt
      (Nat.pow_le_pow_right (by decide) network.block.hostBits_le_width)
  have complement : 2 ^ 128 - 1 - network.block.hostMask =
      2 ^ 128 - (network.block.hostMask + 1) := by omega
  rw [clearedWord, complement, Block.cleared_eq]
  apply Nat.eq_of_testBit_eq
  intro i
  rw [Nat.testBit_and, Nat.testBit_two_pow_sub_succ masked, Block.hostMask_eq,
    Nat.testBit_two_pow_sub_one, Nat.testBit_two_pow_mul, Nat.testBit_div_two_pow]
  by_cases host : i < network.block.hostBits
  · have below : ¬network.block.hostBits ≤ i := by omega
    simp [host, below]
  · have place : i - network.block.hostBits + network.block.hostBits = i := by omega
    by_cases inside : i < 128
    · simp [host, inside, place, Nat.le_of_not_lt host]
    · have none : value.testBit i = false := Nat.testBit_lt_two_pow
        (Nat.lt_of_lt_of_le fits (Nat.pow_le_pow_right (by decide) (Nat.le_of_not_lt inside)))
      simp [none, place]

theorem sizeWord?_eq (network : Network) : network.sizeWord? = some network.size := by
  rw [sizeWord?, hostBitsWord?_eq, Option.bind_eq_bind, Option.bind_some, size]
  split
  · rfl
  · rename_i narrow
    have small : 2 ^ network.block.hostBits < 2 ^ 64 :=
      Nat.pow_lt_pow_right (by decide) (by omega)
    rw [Word.shiftLeft?, if_pos (by omega)]
    rw [← Nat.one_shiftLeft] at small
    exact Word.fit?_eq small

theorem ipWord?_eq {network : Network} {value : Nat} (inside : value ≤ network.block.last) :
    network.ipWord? value = some (network.block.ipAt value) := by
  have narrow := network.block.last_lt_count
  rw [Block.count_eq] at narrow
  rw [ipWord?, Word.fit?_eq (by omega)]
  rfl

theorem ipAtWord?_eq {network : Network} {offset : Nat} (managed : offset < network.size) :
    network.ipAtWord? offset = some (network.ipAt offset) := by
  have inside := base_add_le_last managed
  have narrow := network.block.last_lt_count
  have widest : network.block.version.count ≤ 2 ^ 128 := by
    rw [Block.count_eq]
    exact Nat.pow_le_pow_right (by decide) (Block.width_le _)
  rw [ipAtWord?, Word.add?, Word.fit?_eq (by omega)]
  exact ipWord?_eq inside

theorem gatewayWord?_eq (network : Network) : network.gatewayWord? = some network.gateway := by
  have host := (Block.contains_iff _ _).mp network.block.contains_host
  unfold gatewayWord? gateway
  dsimp only
  split
  · rw [ipWord?_eq host.2.2]
    exact congrArg _ (Block.ipAt_of_version _ rfl)
  · split
    · exact ipAtWord?_eq (by omega)
    · exact ipWord?_eq (by rw [Block.last_eq]; omega)

theorem offsetWord?_eq (network : Network) (address : Address) :
    network.offsetWord? address = some (network.offset? address) := by
  unfold offsetWord? offset?
  cases found : address.host?.filter network.block.contains with
  | none => rfl
  | some ip =>
    have contained := (Option.filter_eq_some_iff.mp found).2
    have above := ((Block.contains_iff _ _).mp contained).2.1
    simp only [Word.sub?_eq above, Option.bind_eq_bind, Option.bind_some,
      Word.fit?_below (Nat.le_of_lt network.size_lt_word)]

theorem followingWord?_eq {network : Network} {offset : Nat} (managed : offset < network.size) :
    network.followingWord? offset = some (network.following offset) := by
  have word := network.size_lt_word
  rw [followingWord?, Word.add?, Word.fit?_eq (by omega)]
  rfl

theorem lastOffsetWord?_eq (network : Network) : network.lastOffsetWord? = network.lastOffset? :=
  Word.fit?_below (Nat.le_of_lt network.size_lt_word) _

theorem poolSizeWord?_eq (network : Network) : network.poolSizeWord? = some network.poolSize := by
  rw [poolSizeWord?, lastOffsetWord?_eq, poolSize, edges]
  split
  · rfl
  · rw [Word.sub?_eq (by omega), Option.bind_eq_bind, Option.bind_some]
    cases network.lastOffset? with
    | none => exact Word.sub?_eq (Nat.zero_le _)
    | some last =>
      rw [Option.isSome_some, if_pos rfl]
      exact Word.sub?_eq (by omega)

theorem countP_edges_le (network : Network) :
    network.edges.countP network.reserved.contains ≤ network.reserved.size := by
  have inside : (network.edges.filter network.reserved.contains).toFinset ⊆ network.taken := by
    intro offset member
    have held := (List.mem_filter.mp (List.mem_toFinset.mp member)).2
    exact mem_taken.mpr (Std.ExtTreeSet.contains_iff_mem.mp held)
  have bound := Finset.card_le_card inside
  rwa [List.toFinset_card_of_nodup (network.edges_nodup.filter _), card_taken,
    ← List.countP_eq_length_filter] at bound

theorem Valid.reserved_le {network : Network} (valid : network.Valid) :
    network.reserved.size ≤ network.size := by
  have inside : network.taken ⊆ Finset.range network.size := by
    intro offset member
    exact Finset.mem_range.mpr (valid offset (mem_taken.mp member))
  have bound := Finset.card_le_card inside
  rwa [card_taken, Finset.card_range] at bound

theorem poolUsedWord?_eq {network : Network} (valid : network.Valid) :
    network.poolUsedWord? = some network.poolUsed := by
  have few := valid.reserved_le
  have word := network.size_lt_word
  rw [poolUsedWord?, Word.fit?_eq (by omega)]
  exact Word.sub?_each network.countP_edges_le

theorem Walks.managed {network after : Network} {start : Nat} {examined : List Nat}
    (walks : Walks network start examined after) (managed : start < network.size) :
    ∀ offset ∈ examined, offset < network.size := by
  induction walks with
  | take free =>
    intro offset member
    cases List.mem_singleton.mp member
    exact managed
  | pass blocked rest ih =>
    intro offset member
    rcases List.mem_cons.mp member with rfl | later
    · exact managed
    · exact ih (following_lt managed) offset later

structure FitsWords (network : Network) : Prop where
  hostBits : network.hostBitsWord? = some network.block.hostBits
  hostMask : network.hostMaskWord? = some network.block.hostMask ∧
    network.block.hostMask = 2 ^ network.block.hostBits - 1
  cleared : ∀ value, value < 2 ^ 128 → network.clearedWord value = network.block.cleared value
  size : network.sizeWord? = some network.size ∧
    network.size = min (2 ^ network.block.hostBits) (2 ^ 64 - 1) ∧ 1 ≤ network.size
  drawn : ∀ generator, (Generator.below network.size generator).1 < network.size
  mapped : ∀ identifier,
    network.mappedOffsetWord? identifier = some (network.mappedOffset identifier)
  offset : ∀ address, network.offsetWord? address = some (network.offset? address)
  last_lt : network.block.last < 2 ^ network.block.version.width
  ipAt : ∀ offset, offset < network.size → network.block.base + offset ≤ network.block.last ∧
    network.ipAtWord? offset = some (network.ipAt offset)
  second : 2 < network.size → network.block.base + 1 ≤ network.block.last
  ends : network.ipWord? network.block.base = some network.first ∧
    network.ipWord? network.block.last = some network.last
  gateway : network.gatewayWord? = some network.gateway
  walk : ∀ start examined after, start < network.size → Walks network start examined after →
    ∀ offset ∈ examined, network.followingWord? offset = some (network.following offset)
  lastOffset : network.lastOffsetWord? = network.lastOffset?
  poolSize : network.poolSizeWord? = some network.poolSize
  poolUsed : network.poolUsedWord? = some network.poolUsed

theorem reached_fitsWords {network : Network} (reached : network.Reached) :
    network.FitsWords where
  hostBits := network.hostBitsWord?_eq
  hostMask := ⟨network.hostMaskWord?_eq, network.block.hostMask_eq⟩
  cleared := fun _ fits => network.clearedWord_eq fits
  size := ⟨network.sizeWord?_eq, network.size_eq, network.size_pos⟩
  drawn := Generator.below_lt network.size_pos
  mapped := fun _ => if_neg (Nat.ne_of_gt network.size_pos)
  offset := network.offsetWord?_eq
  last_lt := by
    rw [← Block.count_eq]
    exact network.block.last_lt_count
  ipAt := fun _ managed => ⟨base_add_le_last managed, ipAtWord?_eq managed⟩
  second := fun large => base_add_le_last (by omega)
  ends := ⟨ipWord?_eq (by rw [Block.last_eq]; omega), ipWord?_eq (Nat.le_refl _)⟩
  gateway := network.gatewayWord?_eq
  walk := fun _ _ _ managed walks _ member => followingWord?_eq (walks.managed managed _ member)
  lastOffset := network.lastOffsetWord?_eq
  poolSize := network.poolSizeWord?_eq
  poolUsed := poolUsedWord?_eq reached.valid

theorem reached_fitsWords_widest :
    let network := ((ofBlock ⟨Ip.wrap .v6 0, 0, by decide⟩ (.ofSeed 7)).serve
      [.reserve (.ip (Ip.wrap .v6 0) 0)]).network
    network.Reached ∧ network.FitsWords :=
  ⟨⟨_, _, .ofBlock _ _, rfl⟩, reached_fitsWords ⟨_, _, .ofBlock _ _, rfl⟩⟩

-- The edges are known in two ways. An offset is asked whether it is one, and the pool is counted
-- by taking the edges off the size. Here both are counts of the same offsets.

theorem isEdge_iff_ends {network : Network} {offset : Nat} (managed : offset < network.size) :
    network.isEdge offset = true ↔ 2 < network.size ∧
      (network.ipAt offset = network.first ∨ network.ipAt offset = network.last) := by
  rw [isEdge_iff, ipAt_eq_first_iff managed, ipAt_eq_last_iff managed]

theorem poolSize_eq_card (network : Network) :
    network.poolSize =
      ((Finset.range network.size).filter fun offset => network.isEdge offset = false).card := by
  rw [← card_pool]
  congr 1
  ext offset
  rw [mem_pool, Finset.mem_filter, Finset.mem_range]

theorem poolUsed_eq_card {network : Network} (valid : network.Valid) :
    network.poolUsed =
      (network.taken.filter fun offset => network.isEdge offset = false).card := by
  rw [← card_taken_pool valid]
  congr 1
  ext offset
  simp only [Finset.mem_inter, Finset.mem_filter, mem_pool]
  apply and_congr_right
  intro held
  exact and_iff_right (valid offset (mem_taken.mp held))

theorem lastOffset?_eq_some_iff {network : Network} {offset : Nat} :
    network.lastOffset? = some offset ↔
      offset < network.size ∧ network.ipAt offset = network.last := by
  have place : offset < network.size →
      (network.ipAt offset = network.last ↔ offset = network.block.hostMask) := ipAt_eq_last_iff
  rw [and_congr_right place, lastOffset?]
  split
  · rename_i managed
    constructor
    · intro same
      cases Option.some.inj same
      exact ⟨managed, rfl⟩
    · rintro ⟨-, rfl⟩
      rfl
  · rename_i beyond
    constructor
    · intro absent
      cases absent
    · rintro ⟨managed, rfl⟩
      exact absurd managed beyond

theorem hostMask_lt_size_iff (network : Network) :
    network.block.hostMask < network.size ↔ network.block.hostBits < 64 := by
  have positive : 0 < 2 ^ network.block.hostBits := Nat.two_pow_pos _
  have counted : 2 ^ network.block.hostBits < 2 ^ 64 ↔ network.block.hostBits < 64 :=
    Nat.pow_lt_pow_iff_right (by decide)
  rw [size_eq, Block.hostMask_eq, ← counted]
  omega

theorem lastOffset?_isSome_iff (network : Network) :
    network.lastOffset?.isSome = true ↔ network.block.hostBits < 64 := by
  rw [← hostMask_lt_size_iff, lastOffset?]
  split <;> simp_all

-- The counts of the pool, computed from the size and in words, are the counts of the offsets that
-- are no edges, among all and among the reserved ones.
structure EdgesAgree (network : Network) : Prop where
  isEdge_iff : ∀ offset, offset < network.size → (network.isEdge offset = true ↔
    2 < network.size ∧
      (network.ipAt offset = network.first ∨ network.ipAt offset = network.last))
  poolSize : network.poolSize =
    ((Finset.range network.size).filter fun offset => network.isEdge offset = false).card
  poolUsed : network.poolUsed =
    (network.taken.filter fun offset => network.isEdge offset = false).card
  lastOffset : ∀ offset, network.lastOffset? = some offset ↔
    offset < network.size ∧ network.ipAt offset = network.last
  lastOffset_isSome : network.lastOffset?.isSome = true ↔ network.block.hostBits < 64
  brink : network.block.hostBits = 64 → network.size = network.block.hostMask
  words : network.poolSizeWord? = some network.poolSize ∧
    network.poolUsedWord? = some network.poolUsed ∧
      network.lastOffsetWord? = network.lastOffset?

theorem edges_agree {network : Network} (valid : network.Valid) : network.EdgesAgree where
  isEdge_iff := fun _ managed => isEdge_iff_ends managed
  poolSize := network.poolSize_eq_card
  poolUsed := poolUsed_eq_card valid
  lastOffset := fun _ => lastOffset?_eq_some_iff
  lastOffset_isSome := network.lastOffset?_isSome_iff
  brink := by
    intro exactly
    rw [size_eq, Block.hostMask_eq, exactly]
    rfl
  words := ⟨network.poolSizeWord?_eq, poolUsedWord?_eq valid, network.lastOffsetWord?_eq⟩

theorem edges_agree_brink :
    let network := ((ofBlock ⟨Ip.wrap .v6 0, 64, by decide⟩ (.ofSeed 7)).hold 0).hold (2 ^ 64 - 2)
    network.Valid ∧ network.EdgesAgree :=
  have lowest := (Valid.ofBlock ⟨Ip.wrap .v6 0, 64, by decide⟩ (.ofSeed 7)).hold
    (show 0 < size _ by decide)
  have highest := lowest.hold (show 2 ^ 64 - 2 < size _ by decide)
  ⟨highest, edges_agree highest⟩

end Network
end AddressPool
