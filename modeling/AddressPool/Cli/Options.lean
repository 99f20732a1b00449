import AddressPool.Text.Parts

namespace AddressPool

-- How options stand among the arguments of a command line: `--name value`, `--name=value`,
-- `-n value`, `-nvalue` and `-n=value`, several short flags in one argument, and `--` in front
-- of arguments that are none.
namespace Cli

inductive Arity where
  | flag
  | single
  | repeated
  | final
deriving DecidableEq

structure OptionSpec where
  name : String
  letter : Option Char
  arity : Arity

structure Given where
  name : String
  value : Option String
deriving DecidableEq

-- How the argument of an option goes on: it is complete, its value is the next argument, or
-- nothing after it counts.
inductive Ending where
  | complete
  | awaits (name : String)
  | stop (name : String)
deriving DecidableEq

inductive Token where
  | escape
  | plain
  | unknown
  | options (given : List Given) (ending : Ending)
deriving DecidableEq

namespace Token

def long (specs : List OptionSpec) (body : List Char) : Token :=
  let (name, value) := match Text.cut? '=' body with
    | some (name, value) => (String.ofList name, some (String.ofList value))
    | none => (String.ofList body, none)
  match specs.find? fun spec => spec.name == name with
  | none => unknown
  | some spec =>
    match spec.arity, value with
    | .flag, none => options [⟨name, none⟩] .complete
    | .final, none => options [] (.stop name)
    | .flag, some _ | .final, some _ => unknown
    | _, some value => options [⟨name, some value⟩] .complete
    | _, none => options [] (.awaits name)

def attached? : List Char → Option String
  | [] => none
  | '=' :: value => some (String.ofList value)
  | value => some (String.ofList value)

def short (specs : List OptionSpec) : List Char → Token
  | [] => options [] .complete
  | letter :: rest =>
    match specs.find? fun spec => spec.letter == some letter with
    | none => unknown
    | some spec =>
      match spec.arity with
      | .final => options [] (.stop spec.name)
      | .flag =>
        match short specs rest with
        | options given ending => options (⟨spec.name, none⟩ :: given) ending
        | other => other
      | _ =>
        match attached? rest with
        | some value => options [⟨spec.name, some value⟩] .complete
        | none => options [] (.awaits spec.name)

def read (specs : List OptionSpec) (argument : String) : Token :=
  match argument.toList with
  | ['-', '-'] => escape
  | '-' :: '-' :: body => long specs body
  | '-' :: letter :: rest => short specs (letter :: rest)
  | _ => plain

def isOptionLike (argument : String) : Bool :=
  match argument.toList with
  | '-' :: _ :: _ => true
  | _ => false

end Token

structure Arguments where
  plain : List String
  given : List Given
deriving DecidableEq

namespace Arguments

def scan (specs : List OptionSpec) : List String → Option Arguments
  | [] => some ⟨[], []⟩
  | argument :: rest =>
    match Token.read specs argument with
    | .unknown => none
    | .escape => some ⟨rest, []⟩
    | .plain => (scan specs rest).map fun found => { found with plain := argument :: found.plain }
    | .options given .complete =>
      (scan specs rest).map fun found => { found with given := given ++ found.given }
    | .options _ (.stop _) => none
    | .options given (.awaits name) =>
      match rest with
      | [] => none
      | value :: rest =>
        if Token.isOptionLike value then none
        else
          (scan specs rest).map fun found =>
            { found with given := given ++ ⟨name, some value⟩ :: found.given }

def has (arguments : Arguments) (name : String) : Bool :=
  arguments.given.any fun given => given.name == name

def values (arguments : Arguments) (name : String) : List String :=
  (arguments.given.filter fun given => given.name == name).filterMap Given.value

def value? (arguments : Arguments) (name : String) : Option String :=
  (arguments.values name).head?

def isSound (arguments : Arguments) (specs : List OptionSpec) : Bool :=
  specs.all fun spec =>
    spec.arity = .repeated ∨ (arguments.given.filter fun given => given.name == spec.name).length ≤ 1

def read (specs : List OptionSpec) (arguments : List String) : Option Arguments :=
  (scan specs arguments).filter fun found => found.isSound specs

end Arguments
end Cli
end AddressPool
