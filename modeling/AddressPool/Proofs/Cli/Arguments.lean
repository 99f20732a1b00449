import AddressPool.Cli.Run
import AddressPool.Proofs.Text.Parts

namespace AddressPool.Cli

-- Command lines as they are written, and how they are read back: a command, arguments that stand
-- for themselves, and options, each with its value in the same argument.

def Given.text (given : Given) : String :=
  match given.value with
  | none => "--" ++ given.name
  | some value => "--" ++ given.name ++ "=" ++ value

def commandLine (name : String) (plain : List String) (given : List Given) : List String :=
  name :: (plain ++ given.map Given.text)

def OptionSpec.takes (spec : OptionSpec) : Option String → Bool
  | none => spec.arity = .flag
  | some _ => spec.arity = .single ∨ spec.arity = .repeated

-- Options are found by their names, which are not empty and hold no sign of equality.
structure Given.Fits (specs : List OptionSpec) (given : Given) : Prop where
  named : given.name.toList ≠ []
  unmarked : '=' ∉ given.name.toList
  takes : (specs.find? fun spec => spec.name == given.name).any (·.takes given.value) = true

instance (specs : List OptionSpec) (given : Given) : Decidable (given.Fits specs) :=
  decidable_of_iff (given.name.toList ≠ [] ∧ '=' ∉ given.name.toList ∧
      (specs.find? fun spec => spec.name == given.name).any (·.takes given.value) = true)
    ⟨fun known => ⟨known.1, known.2.1, known.2.2⟩,
      fun fits => ⟨fits.named, fits.unmarked, fits.takes⟩⟩

theorem Given.Fits.other {specs : List OptionSpec} {name value : String}
    (fits : Given.Fits specs ⟨name, some value⟩) (other : String) :
    Given.Fits specs ⟨name, some other⟩ :=
  ⟨fits.named, fits.unmarked, fits.takes⟩

theorem Token.read_plain {argument : String} (plain : argument.toList.head? ≠ some '-')
    (specs : List OptionSpec) : Token.read specs argument = .plain := by
  have other : ∀ rest, argument.toList ≠ '-' :: rest := by
    intro rest shape
    rw [shape] at plain
    exact plain rfl
  unfold Token.read
  split
  · rename_i shape
    exact absurd shape (other _)
  · rename_i shape
    exact absurd shape (other _)
  · rename_i shape
    exact absurd shape (other _)
  · rfl

theorem Token.read_long {argument : String} {body : List Char} (nonempty : body ≠ [])
    (shape : argument.toList = '-' :: '-' :: body) (specs : List OptionSpec) :
    Token.read specs argument = Token.long specs body := by
  cases body with
  | nil => exact absurd rfl nonempty
  | cons first rest =>
    unfold Token.read
    rw [shape]
    rfl

theorem Token.read_given {specs : List OptionSpec} {given : Given} (fits : given.Fits specs) :
    Token.read specs given.text = .options [given] .complete := by
  obtain ⟨name, value⟩ := given
  obtain ⟨named, unmarked, takes⟩ := fits
  obtain ⟨spec, known, takes⟩ := (Option.any_eq_true _ _).mp takes
  dsimp only at named unmarked known
  cases value with
  | none =>
    have shape : (Given.text ⟨name, none⟩).toList = '-' :: '-' :: name.toList := by
      simp [Given.text]
    have flag : spec.arity = .flag := of_decide_eq_true takes
    rw [Token.read_long named shape, Token.long, Text.cut?_none.mpr unmarked]
    simp only [String.ofList_toList, known, flag]
  | some value =>
    have shape : (Given.text ⟨name, some value⟩).toList =
        '-' :: '-' :: (name.toList ++ '=' :: value.toList) := by
      simp [Given.text]
    have cut : Text.cut? '=' (name.toList ++ '=' :: value.toList) =
        some (name.toList, value.toList) := Text.cut?_append unmarked value.toList
    have valued : spec.arity = .single ∨ spec.arity = .repeated := of_decide_eq_true takes
    rw [Token.read_long (by simp) shape, Token.long, cut]
    rcases valued with single | repeated
    · simp only [String.ofList_toList, known, single]
    · simp only [String.ofList_toList, known, repeated]

namespace Arguments

theorem scan_given {specs : List OptionSpec} {given : List Given}
    (fit : ∀ option ∈ given, option.Fits specs) :
    scan specs (given.map Given.text) = some ⟨[], given⟩ := by
  induction given with
  | nil => rfl
  | cons option given ih =>
    have here := Token.read_given (fit option List.mem_cons_self)
    have later := ih fun other member => fit other (List.mem_cons_of_mem _ member)
    rw [List.map_cons, scan, here]
    simp only [later]
    rfl

theorem scan_line {specs : List OptionSpec} {plain : List String} {given : List Given}
    (bare : ∀ argument ∈ plain, argument.toList.head? ≠ some '-')
    (fit : ∀ option ∈ given, option.Fits specs) :
    scan specs (plain ++ given.map Given.text) = some ⟨plain, given⟩ := by
  induction plain with
  | nil => exact scan_given fit
  | cons argument plain ih =>
    have here := Token.read_plain (bare argument List.mem_cons_self) specs
    have later := ih fun other member => bare other (List.mem_cons_of_mem _ member)
    rw [List.cons_append, scan, here]
    simp only [later]
    rfl

end Arguments

theorem Invocation.read_scanned {name : String} {arguments : List String} {found : Arguments}
    {specs : List OptionSpec} {meaning : Arguments → Option Command} {command : Command}
    (named : name.toList.head? ≠ some '-') (reader : Command.reader? name = some (specs, meaning))
    (scanned : Arguments.scan specs arguments = some found) (sound : found.isSound specs = true)
    (quiet : found.has "verbose" = false) (means : meaning found = some command) :
    Invocation.read (name :: arguments) = some (.run false command) := by
  have read : Arguments.read specs arguments = some found := by
    rw [Arguments.read, scanned, Option.filter_some, if_pos sound]
  rw [Invocation.read, Invocation.readFrom, Token.read_plain named]
  simp only [Command.invocation, reader, read, means, Option.bind_eq_bind, Option.bind_some,
    quiet, Bool.or_false]

theorem Invocation.read_commandLine {name : String} {plain : List String} {given : List Given}
    {specs : List OptionSpec} {meaning : Arguments → Option Command} {command : Command}
    (named : name.toList.head? ≠ some '-') (reader : Command.reader? name = some (specs, meaning))
    (bare : ∀ argument ∈ plain, argument.toList.head? ≠ some '-')
    (fit : ∀ option ∈ given, option.Fits specs)
    (sound : Arguments.isSound ⟨plain, given⟩ specs = true)
    (quiet : Arguments.has ⟨plain, given⟩ "verbose" = false)
    (means : meaning ⟨plain, given⟩ = some command) :
    Invocation.read (commandLine name plain given) = some (.run false command) :=
  read_scanned named reader (Arguments.scan_line bare fit) sound quiet means

theorem respond_run {files : String → FileText} {entropy : Generator} {trace color verbose : Bool}
    {arguments : List String} {command : Command}
    (asked : Invocation.read arguments = some (.run verbose command)) :
    respond files entropy trace color arguments =
      some (Display.output ⟨verbose, trace, color⟩ (command.run files entropy),
        (command.run files entropy).succeeded) := by
  rw [respond, asked]

end AddressPool.Cli
