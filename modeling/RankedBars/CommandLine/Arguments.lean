import RankedBars.Number.Decimal

/-!
# Command-line arguments

Arguments are options with a value, flags and plain words. A value may follow
its option as the next argument, after an equals sign, or right behind a
one-letter name. The next argument is not taken for a value when it looks like
an option itself; an option may except numbers with a minus from this. Two
hyphens end the options.

Arguments are looked at in turn, and the first that is wrong or asks for help
decides.
-/

namespace RankedBars.CommandLine

/-- An option with a value. -/
structure OptionSpec where
  name : String
  letter : Option Char := none
  /-- Whether the option can have this value. -/
  accepts : String → Bool := fun _ => true
  /-- Whether a separate value may be a number with a minus. -/
  takesNegative : Bool := false

/-- What arguments may be given. -/
structure Grammar where
  options : List OptionSpec
  /-- Whether plain words may be given. -/
  takesWords : Bool

/-- What was given: a value for each of some options, and plain words. -/
structure Given where
  values : List (String × String) := []
  words : List String := []

/-- What reading arguments comes to. -/
inductive Parsed
  | given (given : Given)
  | help
  | misuse

/-- A number from `low` up to `high`, with an optional sign. -/
def boundedInt? (low high : Int) (s : String) : Option Int :=
  let (minus, digits) := NumberText.takeSign s.toList
  if digits.isEmpty ∨ ¬ digits.all Char.isDigit then none
  else
    let n : Int := if minus then -(ofDigits digits : Int) else ofDigits digits
    if low ≤ n ∧ n ≤ high then some n else none

def int64? : String → Option Int := boundedInt? (-Nat.pow 2 63) (Nat.pow 2 63 - 1)

def uint32? : String → Option Int := boundedInt? 0 (Nat.pow 2 32 - 1)

/-- Whether an argument looks like an option. A single hyphen does not. -/
def looksLikeOption (arg : List Char) : Bool :=
  match arg with
  | '-' :: _ :: _ => true
  | _ => false

/-- Whether the characters are those of a number: digits, one point that is not
the first of them, and an exponent. -/
def isNumeral (cs : List Char) : Bool :=
  let (whole, rest) := cs.span Char.isDigit
  let rest := match rest with
    | '.' :: more => if whole.isEmpty then rest else more.dropWhile Char.isDigit
    | _ => rest
  match rest with
  | [] => true
  | 'e' :: exponent => !whole.isEmpty && !exponent.isEmpty && exponent.all Char.isDigit
  | _ => false

/-- Whether an argument can be the separate value of an option. -/
def canBeValue (spec : OptionSpec) (arg : List Char) : Bool :=
  !looksLikeOption arg || spec.takesNegative && isNumeral arg.tail

/-- What was given, with a value for one more option. Each option may be given
once. -/
def Given.add? (given : Given) (spec : OptionSpec) (value : String) : Option Given :=
  if given.values.any (·.1 = spec.name) ∨ ¬ spec.accepts value then none
  else some { given with values := given.values ++ [(spec.name, value)] }

def Given.value? (given : Given) (name : String) : Option String := given.values.lookup name

/-- An argument that looks like an option. -/
inductive OptionArgument
  | help
  | attached (spec : OptionSpec) (value : String)
  | separate (spec : OptionSpec)
  | unknown

/-- An argument behind its two hyphens. -/
def longArgument (g : Grammar) (arg : List Char) : OptionArgument :=
  let name := String.ofList (arg.takeWhile (· ≠ '='))
  let value := arg.dropWhile (· ≠ '=')
  if name = "help" then (if value.isEmpty then .help else .unknown)
  else
    match g.options.find? (·.name = name), value with
    | none, _ => .unknown
    | some spec, [] => .separate spec
    | some spec, _ :: value => .attached spec (String.ofList value)

/-- An argument behind its one hyphen. -/
def shortArgument (g : Grammar) (arg : List Char) : OptionArgument :=
  match arg with
  | [] => .unknown
  | letter :: value =>
      if letter = 'h' then .help
      else
        match g.options.find? (·.letter = some letter), value with
        | none, _ => .unknown
        | some spec, [] => .separate spec
        | some spec, '=' :: value => .attached spec (String.ofList value)
        | some spec, value => .attached spec (String.ofList value)

def optionArgument (g : Grammar) (arg : List Char) : OptionArgument :=
  match arg with
  | '-' :: '-' :: rest => longArgument g rest
  | _ => shortArgument g arg.tail

/-- Adds plain words. -/
def addWords (g : Grammar) (given : Given) (words : List String) : Parsed :=
  if words.isEmpty ∨ g.takesWords then .given { given with words := given.words ++ words }
  else .misuse

/-- Reads arguments after those that were already taken in, when `waiting` is an
option that still waits for its value. -/
def parseFrom (g : Grammar) (given : Given) (waiting : Option OptionSpec) : List String → Parsed
  | [] => if waiting.isSome then .misuse else .given given
  | arg :: rest =>
      match waiting with
      | some spec =>
          if canBeValue spec arg.toList then
            match given.add? spec arg with
            | some given => parseFrom g given none rest
            | none => .misuse
          else .misuse
      | none =>
          if arg = "--" then addWords g given rest
          else if looksLikeOption arg.toList then
            match optionArgument g arg.toList with
            | .help => .help
            | .unknown => .misuse
            | .separate spec => parseFrom g given (some spec) rest
            | .attached spec value =>
                match given.add? spec value with
                | some given => parseFrom g given none rest
                | none => .misuse
          else if g.takesWords then
            parseFrom g { given with words := given.words ++ [arg] } none rest
          else .misuse

/-- Reads arguments. -/
def parse (g : Grammar) (args : List String) : Parsed := parseFrom g {} none args

end RankedBars.CommandLine
