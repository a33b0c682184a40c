/-!
# Command-line arguments

A command declares its options. An option has a long name, perhaps a letter, and may take a value:
`--name value`, `--name=value`, `-n value`, `-nvalue` or `-n=value`. A value that follows on its own
may not look like an option. No option may be repeated, and nothing but options is accepted.

- `Arguments.parse?`: the options in a list of arguments, or nothing if they are not used right.
-/

namespace OpticalBench

/-- An option that a command declares. -/
structure OptionDeclaration where
  name : String
  letter : Option Char
  takesValue : Bool
  deriving DecidableEq, Inhabited, Repr

/-- The options that were given, with their values; an option without a value has an empty one. -/
structure Arguments where
  given : List (String × String)
  deriving DecidableEq, Inhabited, Repr

namespace Arguments

/-- Whether an option was given. -/
def has (a : Arguments) (name : String) : Bool := a.given.any fun e => e.1 == name

/-- The value of an option. -/
def value? (a : Arguments) (name : String) : Option String :=
  (a.given.find? fun e => e.1 == name).map (·.2)

/-- Whether an argument looks like an option. A single hyphen does not. -/
def looksLikeOption (argument : List Char) : Bool :=
  match argument with
  | '-' :: _ :: _ => true
  | _ => false

/-- What an argument says by itself: which option is meant, and the value attached to it. -/
def option? (declared : List OptionDeclaration) (argument : List Char) :
    Option (OptionDeclaration × Option String) :=
  match argument with
  | '-' :: '-' :: rest =>
    let name := String.ofList (rest.takeWhile (· != '='))
    let attached := match rest.dropWhile (· != '=') with
      | _ :: value => some (String.ofList value)
      | [] => none
    (declared.find? fun d => d.name == name).map (·, attached)
  | '-' :: letter :: rest =>
    let attached := match rest with
      | [] => none
      | '=' :: value => some (String.ofList value)
      | value => some (String.ofList value)
    (declared.find? fun d => d.letter == some letter).map (·, attached)
  | _ => none

/-- The options in a list of arguments, in order. -/
def collect? (declared : List OptionDeclaration) : List String → Option (List (String × String))
  | [] => some []
  | ["--"] => some []
  | argument :: rest =>
    match option? declared argument.toList with
    | none => none
    | some (d, attached) =>
      match d.takesValue, attached, rest with
      | false, none, rest => (collect? declared rest).map ((d.name, "") :: ·)
      | false, some _, _ => none
      | true, some value, rest => (collect? declared rest).map ((d.name, value) :: ·)
      | true, none, value :: rest =>
        if looksLikeOption value.toList then none
        else (collect? declared rest).map ((d.name, value) :: ·)
      | true, none, [] => none

/-- The options in a list of arguments, none of them repeated. -/
def parse? (declared : List OptionDeclaration) (arguments : List String) : Option Arguments :=
  (collect? declared arguments).bind fun given =>
    if (given.map (·.1)).Nodup then some ⟨given⟩ else none

/-- The value of an option that may be left out, if it can be read. -/
def optional? {α : Type} (a : Arguments) (name : String) (read : String → Option α) :
    Option (Option α) :=
  match a.value? name with
  | none => some none
  | some s => (read s).map some

/-- The name of a file, which cannot be empty. -/
def fileName? (s : String) : Option String := if s.isEmpty then none else some s

end Arguments

end OpticalBench
