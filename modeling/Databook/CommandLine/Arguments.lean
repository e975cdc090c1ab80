/-!
# Command-line arguments

Arguments are options, `--name value` or `--name=value`, and operands, which do not start with a dash
(a dash alone is an operand). `Arguments.read?` tells them apart; behind `--` everything is an
operand. An option has to be known and to have a value that does not look like an option, unless it
stands behind an equals sign. Only repeatable options may be given more than once.
-/

namespace Databook.CommandLine

/-- An option that a command knows. -/
structure OptionSpec where
  name : String
  repeatable : Bool
deriving DecidableEq

/-- Does the argument look like an option? -/
def looksLikeOption (arg : String) : Bool :=
  match arg.toList with
  | ['-'] => false
  | '-' :: _ => true
  | _ => false

/-- The name and value in `--name=value`, or the name in `--name`. -/
def splitOption? (arg : String) : Option (String × Option String) :=
  match arg.toList with
  | '-' :: '-' :: cs =>
    match cs.span (· != '=') with
    | (name, _ :: value) => some (String.ofList name, some (String.ofList value))
    | (name, []) => some (String.ofList name, none)
  | _ => none

/-- Why arguments are not carried out. -/
inductive Halt where
  /-- They make no sense. -/
  | misuse
  /-- They ask for help. -/
  | help
  /-- They ask for the version. -/
  | version
deriving DecidableEq, Inhabited

/-- Options with their values, and operands. -/
structure Arguments where
  options : List (String × String)
  operands : List String
deriving DecidableEq, Inhabited

namespace Arguments

/-- The values of an option. -/
def values (a : Arguments) (name : String) : List String :=
  (a.options.filter (·.1 == name)).map (·.2)

/-- The value of an option that is given once at most. -/
def value? (a : Arguments) (name : String) : Option String := a.options.lookup name

/-- Add an option, unless it is unknown or may not be given again. -/
def add (known : List OptionSpec) (a : Arguments) (name value : String) : Except Halt Arguments :=
  match known.find? (·.name == name) with
  | none => .error .misuse
  | some spec =>
    if !spec.repeatable && (a.value? name).isSome then .error .misuse
    else .ok { a with options := a.options ++ [(name, value)] }

/-- Read arguments up to the end or, with `toOperand`, up to the first operand. Returns what
follows. -/
def scan (known : List OptionSpec) (toOperand : Bool) (a : Arguments) :
    List String → Except Halt (Arguments × List String)
  | [] => .ok (a, [])
  | arg :: args =>
    if !looksLikeOption arg then
      if toOperand then .ok (a, arg :: args)
      else scan known toOperand { a with operands := a.operands ++ [arg] } args
    else if arg = "--" then
      if toOperand then .error .misuse
      else .ok ({ a with operands := a.operands ++ args }, [])
    else if arg = "--help" || arg = "-h" then .error .help
    else if toOperand && (arg = "--version" || arg = "-V") then .error .version
    else match splitOption? arg with
      | none => .error .misuse
      | some (name, some value) => do scan known toOperand (← a.add known name value) args
      | some (name, none) =>
        match args with
        | [] => .error .misuse
        | value :: args =>
          if looksLikeOption value then .error .misuse
          else do scan known toOperand (← a.add known name value) args

/-- Read all arguments. -/
def read (known : List OptionSpec) (args : List String) : Except Halt Arguments :=
  (scan known false ⟨[], []⟩ args).map (·.1)

end Arguments

end Databook.CommandLine
