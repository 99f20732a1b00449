import AddressPool.Address.Parser
import AddressPool.Proofs.Ip.Alphabet

namespace AddressPool.AddressText

-- The texts of addresses and what they mean, form by form. The grammar does not mention the order
-- in which the forms are tried, and no two of them share a text.

def Number (digits : List Char) (n : Nat) : Prop :=
  digits ≠ [] ∧ (∀ c ∈ digits, c.isDigit = true) ∧ Nat.ofDigitChars 10 digits 0 = n

def V4Text (text : List Char) (host : Ip) : Prop := Ip.readV4 .strict text = some host

def V6Text (text : List Char) (host : Ip) : Prop := Ip.readV6 .strict text = some host

def IpText (text : List Char) (host : Ip) : Prop := V4Text text host ∨ V6Text text host

def HostFirst (text : List Char) : Prop := ∃ host, IpText (Text.upTo '/' text) host

def PortFirst (text : List Char) : Prop :=
  ∃ inner rest host, Text.upTo '/' text = inner ++ ':' :: rest ∧ V4Text inner host

def Plain (text : List Char) : Prop := text ≠ [] ∧ text.head? ≠ some '['

inductive Form where
  | nothing
  | bracketed
  | host
  | masked
  | ported
  | path
deriving DecidableEq

inductive Means : Form → List Char → AddressText → Prop where
  | nothing : Means .nothing [] .nothing
  | bracketed {inner : List Char} {host : Ip} (six : V6Text inner host) :
      Means .bracketed ('[' :: (inner ++ [']'])) (.ip host none 0)
  | bracketedPort {inner digits : List Char} {host : Ip} {q : Nat} (six : V6Text inner host)
      (number : Number digits q) (fits : q ≤ 65535) :
      Means .bracketed ('[' :: (inner ++ ']' :: ':' :: digits)) (.ip host none (UInt16.ofNat q))
  | host {text : List Char} {host : Ip} (either : IpText text host) :
      Means .host text (.ip host none 0)
  | masked {inner digits : List Char} {host : Ip} {m : Nat} (either : IpText inner host)
      (number : Number digits m) (fits : m ≤ host.version.width) :
      Means .masked (inner ++ '/' :: digits) (.ip host (some m) 0)
  | ported {inner digits : List Char} {host : Ip} {q : Nat} (four : V4Text inner host)
      (number : Number digits q) (fits : q ≤ 65535) :
      Means .ported (inner ++ ':' :: digits) (.ip host none (UInt16.ofNat q))
  | path {text : List Char} (plain : Plain text) (noHost : ¬HostFirst text)
      (noPort : ¬PortFirst text) : Means .path text (.path (Text.utf8 text))

-- What a text looks like before its numbers and brackets are checked. Every text looks like
-- exactly one form, and can mean something in that form only.
def Looks : Form → List Char → Prop
  | .nothing, text => text = []
  | .bracketed, text => text.head? = some '['
  | .host, text => HostFirst text ∧ '/' ∉ text
  | .masked, text => HostFirst text ∧ '/' ∈ text
  | .ported, text => PortFirst text
  | .path, text => Plain text ∧ ¬HostFirst text ∧ ¬PortFirst text

theorem number_iff {digits : List Char} {n : Nat} :
    Text.number? digits = some n ↔ Number digits n := by
  unfold Text.number? Number Text.numberValue
  constructor
  · intro read
    split at read
    · rename_i valid
      cases read
      have parts : digits ≠ [] ∧ ∀ c ∈ digits, c.isDigit = true := by
        simpa [Text.isNumber] using valid
      exact ⟨parts.1, parts.2, rfl⟩
    · cases read
  · intro number
    obtain ⟨nonempty, all, value⟩ := number
    rw [if_pos (by simpa [Text.isNumber] using ⟨nonempty, all⟩), value]

theorem readPort_eq_ok_iff {input : String} {digits : List Char} {port : UInt16} :
    readPort input digits = .ok port ↔
      ∃ q, Number digits q ∧ q ≤ 65535 ∧ port = UInt16.ofNat q := by
  unfold readPort
  cases read : Text.number? digits with
  | none =>
    simp only [reduceCtorEq, false_iff, not_exists, not_and]
    intro q number
    rw [number_iff.mpr number] at read
    cases read
  | some n =>
    have number := number_iff.mp read
    constructor
    · intro fits
      simp only at fits
      split at fits
      · rename_i small
        cases fits
        exact ⟨n, number, by omega, rfl⟩
      · cases fits
    · intro known
      obtain ⟨q, other, small, rfl⟩ := known
      have same : n = q := Option.some.inj (read.symm.trans (number_iff.mpr other))
      simp only
      rw [if_pos (by omega), same]

theorem readMask_eq_ok_iff {input : String} {limit m : Nat} {digits : List Char} :
    readMask input limit digits = .ok m ↔ Number digits m ∧ m ≤ limit := by
  unfold readMask
  rw [← number_iff]
  cases read : Text.number? digits with
  | none => simp
  | some n =>
    simp only [Option.some.injEq]
    constructor
    · intro fits
      split at fits
      · rename_i small
        cases fits
        exact ⟨rfl, small⟩
      · cases fits
    · intro known
      obtain ⟨rfl, small⟩ := known
      rw [if_pos small]

theorem ipText_iff {text : List Char} {host : Ip} :
    IpText text host ↔ Ip.read .strict text = some host :=
  Ip.read_eq_some_iff.symm

theorem IpText.absent {text : List Char} {host : Ip} {c : Char} (either : IpText text host)
    (foreign : ¬(c = ':' ∨ Ip.IsHex c ∨ c = '.')) : c ∉ text :=
  Ip.not_mem_of_read (ipText_iff.mp either) foreign

theorem IpText.slash {text : List Char} {host : Ip} (either : IpText text host) : '/' ∉ text :=
  either.absent (by decide)

theorem IpText.unique {text : List Char} {host other : Ip} (one : IpText text host)
    (two : IpText text other) : other = host := by
  rw [ipText_iff] at one two
  rw [one] at two
  exact (Option.some.inj two).symm

theorem IpText.ne_nil {text : List Char} {host : Ip} (either : IpText text host) : text ≠ [] :=
  Ip.ne_nil_of_read (ipText_iff.mp either)

theorem V4Text.colon {text : List Char} {host : Ip} (four : V4Text text host) : ':' ∉ text :=
  Ip.colon_not_mem_of_readV4 four

theorem Number.absent {digits : List Char} {n : Nat} {c : Char} (number : Number digits n)
    (foreign : c.isDigit = false) : c ∉ digits := by
  intro member
  have digit := number.2.1 c member
  rw [foreign] at digit
  cases digit

theorem IpText.plain {text inner rest : List Char} {host : Ip} (either : IpText inner host)
    (shape : Text.upTo '/' text = inner ++ rest) : Plain text := by
  cases inner with
  | nil => exact absurd rfl either.ne_nil
  | cons first inner =>
    have other : first ≠ '[' := by
      intro same
      subst same
      exact either.absent (by decide) List.mem_cons_self
    have starts : text.head? = some first := by
      have head := congrArg List.head? shape
      unfold Text.upTo at head
      cases text with
      | nil => cases head
      | cons c text =>
        rw [List.takeWhile_cons] at head
        split at head
        · exact head
        · cases head
    refine ⟨?_, ?_⟩
    · intro empty
      rw [empty] at starts
      cases starts
    · rw [starts]
      exact fun same => other (Option.some.inj same)

theorem IpText.upTo {text : List Char} {host : Ip} (either : IpText text host) :
    Text.upTo '/' text = text :=
  Text.upTo_unmarked either.slash

theorem IpText.hostFirst {text : List Char} {host : Ip} (either : IpText text host) :
    HostFirst text :=
  ⟨host, by rwa [either.upTo]⟩

theorem IpText.upTo_masked {inner : List Char} {host : Ip} (either : IpText inner host)
    (mask : List Char) : Text.upTo '/' (inner ++ '/' :: mask) = inner :=
  Text.upTo_marked either.slash mask

theorem V4Text.slash_ported {inner digits : List Char} {host : Ip} {q : Nat}
    (four : V4Text inner host) (number : Number digits q) : '/' ∉ inner ++ ':' :: digits := by
  have left : '/' ∉ inner := IpText.slash (.inl four)
  have right : '/' ∉ digits := number.absent (by decide)
  simp [left, right]

theorem PortFirst.noHost {text : List Char} (ported : PortFirst text) : ¬HostFirst text := by
  obtain ⟨inner, rest, host, shape, four⟩ := ported
  intro hosted
  obtain ⟨other, either⟩ := hosted
  rw [shape, ipText_iff, Ip.read_quad_colon four] at either
  cases either

theorem portFirst_ported {inner digits : List Char} {host : Ip} {q : Nat}
    (four : V4Text inner host) (number : Number digits q) :
    PortFirst (inner ++ ':' :: digits) :=
  ⟨inner, digits, host, Text.upTo_unmarked (four.slash_ported number), four⟩

theorem PortFirst.plain {text : List Char} (ported : PortFirst text) : Plain text := by
  obtain ⟨inner, rest, host, shape, four⟩ := ported
  exact IpText.plain (.inl four) shape

theorem HostFirst.plain {text : List Char} (hosted : HostFirst text) : Plain text := by
  obtain ⟨host, either⟩ := hosted
  exact either.plain (List.append_nil _).symm

theorem looks_unique {text : List Char} {form other : Form} (left : Looks form text)
    (right : Looks other text) : form = other := by
  have clash : PortFirst text → ¬HostFirst text := PortFirst.noHost
  have hosted : HostFirst text → Plain text := HostFirst.plain
  have ported : PortFirst text → Plain text := PortFirst.plain
  cases form <;> cases other <;> grind [Looks, Plain]

theorem looks_total (text : List Char) : ∃ form, Looks form text := by
  by_cases empty : text = []
  · exact ⟨.nothing, empty⟩
  by_cases bracket : text.head? = some '['
  · exact ⟨.bracketed, bracket⟩
  have plain : Plain text := ⟨empty, bracket⟩
  by_cases hosted : HostFirst text
  · by_cases slash : '/' ∈ text
    · exact ⟨.masked, hosted, slash⟩
    · exact ⟨.host, hosted, slash⟩
  by_cases ported : PortFirst text
  · exact ⟨.ported, ported⟩
  · exact ⟨.path, plain, hosted, ported⟩

theorem Means.looks {form : Form} {text : List Char} {said : AddressText}
    (meaning : Means form text said) : Looks form text := by
  cases meaning with
  | nothing => rfl
  | bracketed => rfl
  | bracketedPort => rfl
  | host either => exact ⟨either.hostFirst, either.slash⟩
  | masked either => exact ⟨⟨_, by rwa [either.upTo_masked]⟩, by simp⟩
  | ported four number => exact portFirst_ported four number
  | path plain noHost noPort => exact ⟨plain, noHost, noPort⟩

end AddressPool.AddressText
