namespace AddressPool.Text

def cut? (mark : Char) : List Char → Option (List Char × List Char)
  | [] => none
  | c :: rest =>
    if c = mark then some ([], rest)
    else (cut? mark rest).map fun (before, after) => (c :: before, after)

def cutDouble? (mark : Char) : List Char → Option (List Char × List Char)
  | [] => none
  | [_] => none
  | c :: d :: rest =>
    if c = mark ∧ d = mark then some ([], rest)
    else (cutDouble? mark (d :: rest)).map fun (before, after) => (c :: before, after)

def after? : (lead : List Char) → List Char → Option (List Char)
  | [], text => some text
  | _ :: _, [] => none
  | c :: lead, d :: text => if c = d then after? lead text else none

theorem cut?_exact {mark : Char} {text before after : List Char} :
    cut? mark text = some (before, after) ↔ text = before ++ mark :: after ∧ mark ∉ before := by
  induction text generalizing before with
  | nil => simp [cut?]
  | cons c rest ih =>
    by_cases same : c = mark
    · subst same
      cases before with
      | nil => simp [cut?]
      | cons b before => simp only [cut?, if_true, List.cons_append, List.cons.injEq,
          List.mem_cons, not_or]; grind
    · cases before with
      | nil => simp [cut?, same]
      | cons b before =>
        simp only [cut?, same, if_false, Option.map_eq_some_iff, Prod.mk.injEq, Prod.exists,
          List.cons_append, List.cons.injEq, List.mem_cons, not_or]
        constructor
        · rintro ⟨x, y, found, ⟨rfl, rfl⟩, rfl⟩
          have := ih.mp found
          exact ⟨⟨rfl, this.1⟩, fun h => same h.symm, this.2⟩
        · rintro ⟨⟨rfl, eq⟩, _, absent⟩
          exact ⟨before, after, ih.mpr ⟨eq, absent⟩, ⟨rfl, rfl⟩, rfl⟩

theorem cut?_none {mark : Char} {text : List Char} : cut? mark text = none ↔ mark ∉ text := by
  induction text with
  | nil => simp [cut?]
  | cons c rest ih =>
    by_cases same : c = mark
    · subst same; simp [cut?]
    · simp [cut?, same, ih, Ne.symm same]

-- A number is one or more ASCII digits. Leading zeros are allowed and carry no weight.
def isNumber (text : List Char) : Bool :=
  !text.isEmpty && text.all Char.isDigit

def numberValue (text : List Char) : Nat := Nat.ofDigitChars 10 text 0

def number? (text : List Char) : Option Nat :=
  if isNumber text then some (numberValue text) else none

def signedNumber? : List Char → Option Int
  | '+' :: digits => (number? digits).map Int.ofNat
  | '-' :: digits => (number? digits).map fun n => -(n : Int)
  | digits => (number? digits).map Int.ofNat

def numeral (n : Nat) : List Char := Nat.toDigits 10 n

theorem numeral_ne_nil (n : Nat) : numeral n ≠ [] := by
  simp [numeral]

theorem isDigit_of_mem_numeral {n : Nat} {c : Char} (member : c ∈ numeral n) :
    c.isDigit = true :=
  Nat.isDigit_of_mem_toDigits (by decide) (by decide) member

theorem number?_numeral (n : Nat) : number? (numeral n) = some n := by
  have digits : isNumber (numeral n) = true := by
    simp only [isNumber, Bool.and_eq_true, List.all_eq_true]
    exact ⟨by simp [numeral_ne_nil], fun _ member => isDigit_of_mem_numeral member⟩
  rw [number?, if_pos digits]
  simp [numberValue, numeral, Nat.ofDigitChars_toDigits]

end AddressPool.Text
