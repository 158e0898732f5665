import BenchCharts.CommandLine

/-!
Reads the arguments of the program, from left to right. The first that asks for help or is wrong
decides.
-/

namespace BenchCharts.CommandLine

/-- Why there is no command to carry out. -/
inductive Stop where
  | help
  | version
  | misuse
  deriving DecidableEq, Repr

/-- What was given in front of a command or behind it. -/
structure Given where
  config : Option Path := none
  verbosity : Nat := 0
  input : Option Path := none
  out : Option Path := none
  table : Bool := false
  montage : Bool := false
  operands : List Path := []

namespace Given

/-- A switch that may be given once. -/
def once (old : Option Path) (value : String) : Except Stop (Option Path) :=
  if old.isSome ∨ value = "" then .error .misuse else .ok (Path.ofString value)

def turnOn (given : Given) : Switch → Except Stop Given
  | .help => .error .help
  | .version => .error .version
  | .verbose => .ok { given with verbosity := given.verbosity + 1 }
  | .table => if given.table then .error .misuse else .ok { given with table := true }
  | .montage => if given.montage then .error .misuse else .ok { given with montage := true }
  | _ => .error .misuse

def set (given : Given) (value : String) : Switch → Except Stop Given
  | .config => do return { given with config := ← once given.config value }
  | .input => do return { given with input := ← once given.input value }
  | .out => do return { given with out := ← once given.out value }
  | _ => .error .misuse

def addOperand (given : Given) (operand : String) : Except Stop Given :=
  if operand = "" then .error .misuse
  else .ok { given with operands := given.operands ++ [.ofString operand] }

end Given

/-- A switch that waits for its value in the next argument. -/
abbrev Waiting := Option Switch

/-- Takes a word `--name` or `--name=value`. -/
def takeLong (scope : List Switch) (given : Given) (word : List Char) :
    Except Stop (Given × Waiting) := do
  let name := String.ofList (word.takeWhile (· != '='))
  match scope.find? (·.long == name), word.dropWhile (· != '=') with
  | none, _ => throw .misuse
  | some switch, [] =>
    if switch.takesValue then return (given, some switch) else return (← given.turnOn switch, none)
  | some switch, _ :: value => return (← given.set (String.ofList value) switch, none)

/-- Takes the letters behind a single dash. The first one that wants a value takes the rest of
them. -/
def takeShort (scope : List Switch) (given : Given) : List Char → Except Stop (Given × Waiting)
  | [] => .ok (given, none)
  | c :: rest =>
    match scope.find? (·.short? == some c) with
    | none => .error .misuse
    | some switch =>
      if switch.takesValue then
        match rest with
        | [] => .ok (given, some switch)
        | '=' :: value => do return (← given.set (String.ofList value) switch, none)
        | value => do return (← given.set (String.ofList value) switch, none)
      else do takeShort scope (← given.turnOn switch) rest

/-- Whether an argument is a switch or a row of switches. -/
def isDashed (word : List Char) : Bool :=
  match word with
  | '-' :: _ :: _ => true
  | _ => false

def takeDashed (scope : List Switch) (given : Given) (word : List Char) :
    Except Stop (Given × Waiting) :=
  match word with
  | '-' :: '-' :: name => takeLong scope given name
  | _ :: letters => takeShort scope given letters
  | [] => .error .misuse

inductive OperandUse where
  | ending
  | refused
  | collected
  deriving DecidableEq, Repr

/-- The operands behind a double dash. -/
def takeOperands (use : OperandUse) (given : Given) (operands : List String) : Except Stop Given :=
  if use = .collected then operands.foldlM Given.addOperand given
  else if operands.isEmpty then .ok given
  else .error .misuse

/-- Reads arguments; what is left starts with an operand. -/
def readArguments (scope : List Switch) (use : OperandUse) (given : Given) (waiting : Waiting) :
    List String → Except Stop (Given × List String)
  | [] => if waiting.isSome then .error .misuse else .ok (given, [])
  | argument :: rest =>
    match waiting with
    | some switch =>
      if isDashed argument.toList then .error .misuse
      else do readArguments scope use (← given.set argument switch) none rest
    | none =>
      if argument = "--" then do return (← takeOperands use given rest, [])
      else if isDashed argument.toList then do
        let (given, waiting) ← takeDashed scope given argument.toList
        readArguments scope use given waiting rest
      else match use with
        | .ending => .ok (given, argument :: rest)
        | .refused => .error .misuse
        | .collected => do readArguments scope use (← given.addOperand argument) none rest

/-- Where results lie unless said otherwise. -/
def standardInput : Path := .ofString "./results"

def standardMontage : Path := .ofString "./charts/montage.png"

def command (verb : Verb) (given : Given) : Except Stop Command :=
  let request : ReportRequest := ⟨given.input.getD standardInput, given.out, given.table⟩
  match verb with
  | .ipc => .ok (.ipc request given.montage)
  | .latency => .ok (.overlay .latency request)
  | .multi => .ok (.overlay .multi request)
  | .types => .ok (.types request)
  | .withload => .ok (.load request)
  | .montage =>
    if given.operands.isEmpty then .error .misuse
    else .ok (.montage given.operands (given.out.getD standardMontage))

/-- Reads all arguments. What is said behind the command counts more than what is said in front. -/
def read (arguments : List String) : Except Stop Invocation := do
  let (front, rest) ← readArguments Switch.general .ending {} none arguments
  match rest with
  | [] => throw .misuse
  | name :: rest =>
    match Verb.ofName? name with
    | none => throw .misuse
    | some verb =>
      let use := if verb = .montage then OperandUse.collected else .refused
      let (back, _) ← readArguments (Switch.ofVerb verb) use {} none rest
      return {
        command := ← command verb back
        config := back.config.or front.config
        verbosity := if back.verbosity = 0 then front.verbosity else back.verbosity }

end BenchCharts.CommandLine
