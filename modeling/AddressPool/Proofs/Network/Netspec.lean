import AddressPool.Job.Allocation
import AddressPool.Proofs.Address.RoundTrip
import AddressPool.Proofs.Block
import AddressPool.Proofs.Network.Restart

namespace AddressPool

def NetspecFault.isArgument : NetspecFault → Bool
  | address _ => true
  | noNetwork _ _ | maskTooLong _ => false

namespace AddressText

def Masked (text : List Char) (host : Ip) (mask : Nat) : Prop :=
  ∃ inner digits, text = inner ++ '/' :: digits ∧ IpText inner host ∧ Number digits mask ∧
    mask ≤ host.version.width

theorem Means.masked_iff {text : List Char} {host : Ip} {mask : Nat} {port : UInt16} :
    (∃ form, Means form text (.ip host (some mask) port)) ↔ Masked text host mask ∧ port = 0 := by
  constructor
  · rintro ⟨form, meaning⟩
    cases meaning with
    | masked either number fits => exact ⟨⟨_, _, rfl, either, number, fits⟩, rfl⟩
  · rintro ⟨⟨inner, digits, rfl, either, number, fits⟩, rfl⟩
    exact ⟨.masked, .masked either number fits⟩

theorem read_masked_iff {netspec : String} {host : Ip} {mask : Nat} {port : UInt16} :
    read netspec true 0 = .ok (.ip host (some mask) port) ↔
      Masked netspec.toList host mask ∧ port = 0 := by
  rw [read_iff_means, Means.masked_iff]

theorem read_nothing_iff {netspec : String} : read netspec true 0 = .ok .nothing ↔ netspec = "" := by
  rw [read_iff_means]
  constructor
  · rintro ⟨form, meaning⟩
    generalize shape : netspec.toList = text at meaning
    cases meaning with
    | nothing => exact String.toList_eq_nil_iff.mp shape
  · rintro rfl
    exact ⟨.nothing, .nothing⟩

end AddressText

namespace Block

-- What becomes of a netspec, by what its text says as an address. There is no rule for a mask that
-- is too long: no such text has been read as an address.
inductive Judged (netspec : String) : Except NetspecFault Block → Prop where
  | block (block : Block) (said : AddressText.read netspec true 0 =
      .ok (.ip block.host (some block.maskSize) 0)) : Judged netspec (.ok block)
  | bare {host : Ip} {port : UInt16}
      (said : AddressText.read netspec true 0 = .ok (.ip host none port)) :
      Judged netspec (.error (.address (.maskRequired netspec)))
  | nothing (said : AddressText.read netspec true 0 = .ok .nothing) :
      Judged netspec (.error (.noNetwork netspec .unspecified))
  | path {octets : Bytes} (said : AddressText.read netspec true 0 = .ok (.path octets)) :
      Judged netspec (.error (.noNetwork netspec .path))
  | refused {fault : ArgumentFault} (said : AddressText.read netspec true 0 = .error fault) :
      Judged netspec (.error (.address fault))

theorem ofNetspec_judged (netspec : String) : Judged netspec (ofNetspec netspec) := by
  unfold ofNetspec
  rw [AddressText.read_demandMask]
  cases said : AddressText.read netspec true 0 with
  | error fault => exact .refused said
  | ok text =>
    cases text with
    | nothing => exact .nothing said
    | path octets => exact .path said
    | ip host mask port =>
      cases mask with
      | none => exact .bare said
      | some mask =>
        obtain ⟨⟨inner, digits, shape, either, number, fits⟩, rfl⟩ :=
          AddressText.read_masked_iff.mp said
        have made : ofHost? host mask = some ⟨host, mask, fits⟩ := dif_pos fits
        simp only [Except.bind, AddressText.demandMask, made]
        exact .block _ said

section
variable {netspec : String} {outcome : Except NetspecFault Block} (judged : Judged netspec outcome)
include judged

theorem Judged.ok_iff {block : Block} : outcome = .ok block ↔
    AddressText.read netspec true 0 = .ok (.ip block.host (some block.maskSize) 0) := by
  cases judged with
  | block _ said => simp [said, Block.ext_iff]
  | bare said | nothing said | path said | refused said => simp [said]

theorem Judged.isOk_iff : outcome.isOk = true ↔
    ∃ host mask port, AddressText.read netspec true 0 = .ok (.ip host (some mask) port) := by
  cases judged with
  | block _ said | bare said | nothing said | path said | refused said =>
    simp [said, Except.isOk, Except.toBool]

theorem Judged.netspec_fault_iff :
    (∃ fault, outcome = .error fault ∧ fault.isArgument = false) ↔
      netspec = "" ∨ ∃ octets, AddressText.read netspec true 0 = .ok (.path octets) := by
  rw [← AddressText.read_nothing_iff]
  cases judged with
  | block _ said | bare said | nothing said | path said | refused said =>
    simp [said, NetspecFault.isArgument]

theorem Judged.argument_fault_iff :
    (∃ fault, outcome = .error fault ∧ fault.isArgument = true) ↔ outcome.isOk = false ∧
      ¬(netspec = "" ∨ ∃ octets, AddressText.read netspec true 0 = .ok (.path octets)) := by
  rw [← AddressText.read_nothing_iff]
  cases judged with
  | block _ said | bare said | nothing said | path said | refused said =>
    simp [said, NetspecFault.isArgument, Except.isOk, Except.toBool]

theorem Judged.address_iff {argument : ArgumentFault} :
    outcome = .error (.address argument) ↔
      AddressText.read netspec true 0 = .error argument ∨
        argument = .maskRequired netspec ∧
          ∃ host port, AddressText.read netspec true 0 = .ok (.ip host none port) := by
  cases judged with
  | block _ said | bare said | nothing said | path said | refused said => simp [said, eq_comm]

theorem Judged.ne_maskTooLong (text : String) : outcome ≠ .error (.maskTooLong text) := by
  cases judged <;> simp

theorem Judged.bare_or_ok :
    (∃ host mask port, AddressText.read netspec true 0 = .ok (.ip host mask port)) ↔
      (Address.isBareHost netspec ^^ outcome.isOk) = true := by
  unfold Address.isBareHost
  cases judged with
  | block _ said | bare said | nothing said | path said | refused said =>
    simp [said, Except.isOk, Except.toBool]

end

structure Given (block : Block) (host : Ip) (mask : Nat) : Prop where
  host_eq : block.host = host
  version_eq : block.version = host.version
  maskSize_eq : block.maskSize = mask
  base_testBit : ∀ i, block.base.testBit i =
    (decide (host.version.width - mask ≤ i) && host.value.testBit i)

theorem given (block : Block) : block.Given block.host block.maskSize :=
  ⟨rfl, rfl, rfl, block.testBit_cleared block.host.value⟩

end Block

namespace Network

theorem create_error_iff {netspec : String} {generator : Generator} {fault : NetspecFault} :
    (create netspec generator).1 = .error fault ↔ Block.ofNetspec netspec = .error fault := by
  unfold create
  cases Block.ofNetspec netspec <;> simp

theorem reset_error_iff {network : Network} {netspec : String} {fault : NetspecFault} :
    (network.reset netspec).value = .error fault ↔ Block.ofNetspec netspec = .error fault := by
  unfold reset
  cases Block.ofNetspec netspec <;> simp

theorem create_isOk (netspec : String) (generator : Generator) :
    (create netspec generator).1.isOk = Block.isNetspec netspec := by
  unfold create Block.isNetspec
  cases Block.ofNetspec netspec <;> rfl

-- All that read a netspec, for a new network, for one that starts over or only to see whether it is
-- one, make the same of the text. It is what the text says as an address that decides.
structure ReadersAgree (netspec : String) : Prop where
  create_isOk : ∀ generator, (create netspec generator).1.isOk = Block.isNetspec netspec
  reset_isOk : ∀ network : Network, (network.reset netspec).value.isOk = Block.isNetspec netspec
  accepted : Block.isNetspec netspec = true ↔
    ∃ host mask port, AddressText.read netspec true 0 = .ok (.ip host (some mask) port)
  masked : ∀ host mask port, AddressText.read netspec true 0 = .ok (.ip host (some mask) port) ↔
    AddressText.Masked netspec.toList host mask ∧ port = 0
  given : ∀ host mask port, AddressText.read netspec true 0 = .ok (.ip host (some mask) port) →
    ∃ block : Block, block.Given host mask ∧
      (∀ generator, (create netspec generator).1 = .ok (ofBlock block generator)) ∧
      ∀ network : Network, (network.reset netspec).network = ofBlock block network.generator
  same_fault : ∀ generator (network : Network) fault,
    (create netspec generator).1 = .error fault ↔ (network.reset netspec).value = .error fault
  netspec_fault : ∀ generator,
    (∃ fault, (create netspec generator).1 = .error fault ∧ fault.isArgument = false) ↔
      netspec = "" ∨ ∃ octets, AddressText.read netspec true 0 = .ok (.path octets)
  argument_fault : ∀ generator,
    (∃ fault, (create netspec generator).1 = .error fault ∧ fault.isArgument = true) ↔
      Block.isNetspec netspec = false ∧
        ¬(netspec = "" ∨ ∃ octets, AddressText.read netspec true 0 = .ok (.path octets))
  argument : ∀ generator fault, (create netspec generator).1 = .error (.address fault) ↔
    AddressText.read netspec true 0 = .error fault ∨ fault = .maskRequired netspec ∧
      ∃ host port, AddressText.read netspec true 0 = .ok (.ip host none port)
  maskTooLong : ∀ generator text, (create netspec generator).1 ≠ .error (.maskTooLong text)
  bare_or_netspec : (∃ host mask port, AddressText.read netspec true 0 = .ok (.ip host mask port)) ↔
    (Address.isBareHost netspec ^^ Block.isNetspec netspec) = true

theorem readers_agree (netspec : String) : ReadersAgree netspec where
  create_isOk := create_isOk netspec
  reset_isOk := fun network => network.reset_isOk netspec
  accepted := (Block.ofNetspec_judged netspec).isOk_iff
  masked := fun _ _ _ => AddressText.read_masked_iff
  given := by
    intro host mask port said
    obtain ⟨⟨inner, digits, shape, either, number, fits⟩, rfl⟩ := AddressText.read_masked_iff.mp said
    have read : Block.ofNetspec netspec = .ok ⟨host, mask, fits⟩ :=
      (Block.ofNetspec_judged netspec).ok_iff.mpr said
    refine ⟨⟨host, mask, fits⟩, Block.given _, ?_, ?_⟩
    · intro generator
      exact create_ok_iff.mpr ⟨_, read, rfl⟩
    · intro network
      exact (reset_ok read network).2
  same_fault := by
    intro generator network fault
    rw [create_error_iff, reset_error_iff]
  netspec_fault := by
    intro generator
    simp only [create_error_iff]
    exact (Block.ofNetspec_judged netspec).netspec_fault_iff
  argument_fault := by
    intro generator
    simp only [create_error_iff]
    exact (Block.ofNetspec_judged netspec).argument_fault_iff
  argument := by
    intro generator fault
    rw [create_error_iff]
    exact (Block.ofNetspec_judged netspec).address_iff
  maskTooLong := by
    intro generator text
    rw [Ne, create_error_iff]
    exact (Block.ofNetspec_judged netspec).ne_maskTooLong text
  bare_or_netspec := (Block.ofNetspec_judged netspec).bare_or_ok

example : Block.ofNetspec "10.0.0.1/33" =
    .error (.address (.maskTooLong "10.0.0.1/33" 32)) := by cbv

end Network

theorem Block.text_injective {here there : Block} (same : here.text = there.text) :
    here = there := by
  have read := here.ofNetspec_text
  rw [same, there.ofNetspec_text] at read
  exact (Except.ok.inj read).symm

def Job.beginRead (job : Job) (generator : Generator) : Except NetspecFault Allocation :=
  let (made, log) := Network.create job.network.text generator
  made.map fun network => Allocation.say ⟨network, #[]⟩ (log ++ [.allocating network.name])

theorem Job.beginRead_eq (job : Job) (generator : Generator) :
    job.beginRead generator = .ok (job.begin generator) := by
  unfold Job.beginRead
  rw [Network.create_text]
  rfl

namespace Network

theorem text_eq_iff (network other : Network) :
    network.text = other.text ↔ network.block.Same other.block := by
  rw [← Block.truncated_eq_iff]
  constructor
  · intro texts
    exact Block.text_injective texts
  · intro names
    exact congrArg Block.text names

theorem compare_eq_iff (network other : Network) :
    compare network other = .eq ↔ network.block.Same other.block :=
  Block.compare_eq_iff network.block other.block

theorem masked_name (network : Network) : network.block.masked = network.name :=
  network.block.masked_eq

-- Networks are the same if their versions, first addresses and masks are. The text of a network,
-- the block that is left when its address is masked and the order all tell the same.
structure TextDecides (network other : Network) (configured : Block) (generator : Generator) :
    Prop where
  reads : ∃ again, (create network.text generator).1 = .ok again ∧
    again.block.Same network.block ∧ again.text = network.text
  masked : network.block.masked = network.name ∧ network.block.masked.text = network.text
  regained : (ofBlock network.block.masked generator).block.Same network.block
  text : network.block.Same other.block ↔ network.text = other.text
  order : network.text = other.text ↔ compare network other = .eq
  created : (create configured.text generator).1 = .ok (ofBlock configured generator)
  begins : ∀ job : Job, job.network = configured →
    job.beginRead generator = .ok (job.begin generator)

theorem text_decides (network other : Network) (configured : Block) (generator : Generator) :
    TextDecides network other configured generator where
  reads := by
    have same := network.block.truncated_same
    refine ⟨ofBlock network.name generator, ?_, same, ?_⟩
    · exact congrArg Prod.fst (create_text network.name generator)
    · exact (text_eq_iff _ network).mpr same
  masked := by
    rw [masked_name]
    exact ⟨rfl, rfl⟩
  regained := by
    rw [masked_name]
    exact network.block.truncated_same
  text := (text_eq_iff network other).symm
  order := (text_eq_iff network other).trans (compare_eq_iff network other).symm
  created := congrArg Prod.fst (create_text configured generator)
  begins := fun job _ => job.beginRead_eq generator

end Network
end AddressPool
