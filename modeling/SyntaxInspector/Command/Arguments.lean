/-!
# Command-line arguments

Arguments are options and positional values in any order. An option has a long name, written
`--name value` or `--name=value`, and perhaps a letter, written `-x value`, `-xvalue` or `-x=value`;
letters of options without a value may be written together. After `--` everything is positional.

* `OptionSpec` — what an option is called and whether it has a value;
* `readArguments` — sorts arguments into options and positional values.
-/

namespace SyntaxInspector

/-- What an option takes. -/
inductive OptionKind where
  /-- No value; may be given once. -/
  | flag
  /-- No value; may be given again and again. -/
  | count
  /-- A value; may be given once. -/
  | single
  /-- A value; may be given again and again. -/
  | many
  deriving DecidableEq

namespace OptionKind

/-- Whether options of the kind have a value. -/
def hasValue : OptionKind → Bool
  | .single => true
  | .many => true
  | _ => false

/-- Whether options of the kind may be given more than once. -/
def isRepeatable : OptionKind → Bool
  | .count => true
  | .many => true
  | _ => false

end OptionKind

/-- An option. -/
structure OptionSpec where
  /-- The long name. -/
  long : String
  /-- The letter, if it has one. -/
  short : Option Char := none
  /-- What it takes. -/
  kind : OptionKind
  /-- Which values it accepts. -/
  accepts : String → Bool := fun _ => true

/-- Why arguments cannot be used, or that only help is wanted. -/
inductive UsageError where
  /-- The arguments are wrong. -/
  | invalid
  /-- Help is wanted. -/
  | help
  deriving DecidableEq

/-- Arguments sorted into options, with their values, and positional values; both in order. -/
structure Arguments where
  /-- Options by long name; those without a value have an empty one. -/
  options : List (String × String) := []
  /-- Positional values. -/
  positional : List String := []

namespace Arguments

/-- Whether an option was given. -/
def has (a : Arguments) (long : String) : Bool := a.options.any (·.1 == long)

/-- The value of an option. -/
def value? (a : Arguments) (long : String) : Option String := a.options.lookup long

/-- All values of an option. -/
def values (a : Arguments) (long : String) : List String :=
  (a.options.filter (·.1 == long)).map Prod.snd

/-- Adds an option, if it may be given here with that value. -/
def add (a : Arguments) (spec : OptionSpec) (value : String) : Except UsageError Arguments :=
  if a.has spec.long && !spec.kind.isRepeatable then .error .invalid
  else if spec.accepts value then .ok { a with options := a.options ++ [(spec.long, value)] }
  else .error .invalid

end Arguments

/-- Whether an argument could be an option rather than a value: a hyphen with something after it. -/
def looksLikeOption (arg : String) : Bool :=
  match arg.toList with
  | '-' :: _ :: _ => true
  | _ => false

/-- Splits the name of a long option from a value after an equals sign. -/
def splitLong (cs : List Char) : String × Option String :=
  match cs.span (· ≠ '=') with
  | (name, []) => (String.ofList name, none)
  | (name, _ :: value) => (String.ofList name, some (String.ofList value))

/-- Adds an option that needs a value, which is the next argument if it is not `given`. Gives the
arguments left. -/
def takeValue (a : Arguments) (spec : OptionSpec) (given : Option String) (rest : List String) :
    Except UsageError (Arguments × List String) :=
  match given, rest with
  | some value, _ => (a.add spec value).map (·, rest)
  | none, value :: rest =>
    if looksLikeOption value then .error .invalid else (a.add spec value).map (·, rest)
  | none, [] => .error .invalid

/-- Reads a long option, from after its hyphens. -/
def readLong (specs : List OptionSpec) (a : Arguments) (cs : List Char) (rest : List String) :
    Except UsageError (Arguments × List String) :=
  let (name, given) := splitLong cs
  match specs.find? (·.long == name) with
  | none => .error (if name == "help" && given.isNone then .help else .invalid)
  | some spec =>
    if spec.kind.hasValue then takeValue a spec given rest
    else if given.isSome then .error .invalid
    else (a.add spec "").map (·, rest)

/-- Reads option letters, from after their hyphen. -/
def readShort (specs : List OptionSpec) (rest : List String) :
    Arguments → List Char → Except UsageError (Arguments × List String)
  | a, [] => .ok (a, rest)
  | a, c :: cs =>
    match specs.find? (·.short == some c) with
    | none => .error (if c = 'h' then .help else .invalid)
    | some spec =>
      if spec.kind.hasValue then
        let given := match cs with
          | [] => none
          | '=' :: value => some (String.ofList value)
          | value => some (String.ofList value)
        takeValue a spec given rest
      else
        match a.add spec "" with
        | .ok a => readShort specs rest a cs
        | .error e => .error e

/-- Sorts arguments; `fuel` is at least their number. -/
def readArgumentsWithin (specs : List OptionSpec) :
    Nat → Arguments → List String → Except UsageError Arguments
  | 0, _, _ => .error .invalid
  | _ + 1, a, [] => .ok a
  | fuel + 1, a, arg :: rest =>
    match arg.toList with
    | ['-', '-'] => .ok { a with positional := a.positional ++ rest }
    | '-' :: '-' :: cs => do
      let (a, rest) ← readLong specs a cs rest
      readArgumentsWithin specs fuel a rest
    | '-' :: c :: cs => do
      let (a, rest) ← readShort specs rest a (c :: cs)
      readArgumentsWithin specs fuel a rest
    | _ => readArgumentsWithin specs fuel { a with positional := a.positional ++ [arg] } rest

/-- Sorts arguments into options and positional values. -/
def readArguments (specs : List OptionSpec) (args : List String) : Except UsageError Arguments :=
  readArgumentsWithin specs (args.length + 1) {} args

end SyntaxInspector
