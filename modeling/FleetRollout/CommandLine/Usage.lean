set_option autoImplicit false

/-!
Reading the arguments of a command: options by name, with their values attached or following, and
arguments by position. An option waits for the word after it, unless that word looks like another
option; what it got is checked when the next argument settles it. The first fault ends the reading.
-/

namespace FleetRollout.CommandLine

inductive UsageFault where
  | help
  | version
  | nothingGiven
  | missingCommand
  | unknownCommand
  | unknownArgument
  | missingArgument
  | emptyValue
  | malformedValue
  | unwantedValue
  | repeated
  deriving Repr, DecidableEq

inductive Arity where
  | switch
  | single
  | many
  | request (fault : UsageFault)
  deriving Repr, DecidableEq

structure Parameter where
  name : String
  letter : Option Char := none
  arity : Arity := .single
  fault? : String → Option UsageFault := fun _ => none

def Parameter.takesValue (parameter : Parameter) : Bool :=
  match parameter.arity with
  | .single | .many => true
  | .switch | .request _ => false

structure Grammar where
  options : List Parameter
  positions : List Parameter := []

structure Arguments where
  given : List (String × List String) := []
  deriving Repr, DecidableEq

namespace Arguments

def has (arguments : Arguments) (name : String) : Bool :=
  arguments.given.any fun entry => entry.1 == name

def all (arguments : Arguments) (name : String) : List String :=
  (arguments.given.filter fun entry => entry.1 == name).flatMap (·.2)

def value? (arguments : Arguments) (name : String) : Option String :=
  (arguments.all name).head?

-- Takes the values of a parameter: their number comes first, then repetition, then their form.
def accept (arguments : Arguments) (parameter : Parameter) (values : List String) :
    Except UsageFault Arguments :=
  match parameter.arity with
  | .request fault => .error fault
  | arity =>
      if parameter.takesValue && values.isEmpty then .error .emptyValue
      else if arity != .many && arguments.has parameter.name then .error .repeated
      else
        match values.findSome? parameter.fault? with
        | some fault => .error fault
        | none => .ok { given := arguments.given ++ [(parameter.name, values)] }

end Arguments

structure Reading where
  arguments : Arguments := {}
  pending : Option (Parameter × List String) := none
  positions : List Parameter := []

namespace Reading

def settle (reading : Reading) : Except UsageFault Reading :=
  match reading.pending with
  | none => .ok reading
  | some (parameter, values) => do
      let arguments ← reading.arguments.accept parameter values
      pure { reading with arguments, pending := none }

def accept (reading : Reading) (parameter : Parameter) (values : List String) :
    Except UsageFault Reading := do
  let settled ← reading.settle
  let arguments ← settled.arguments.accept parameter values
  pure { settled with arguments }

def await (reading : Reading) (parameter : Parameter) : Except UsageFault Reading := do
  let settled ← reading.settle
  pure { settled with pending := some (parameter, []) }

def supply (reading : Reading) (word : String) : Reading :=
  { reading with
    pending := reading.pending.map fun (parameter, values) => (parameter, values ++ [word]) }

def isWaiting (reading : Reading) : Bool :=
  reading.pending.any fun (_, values) => values.isEmpty

def place (reading : Reading) (word : String) : Except UsageFault Reading :=
  match reading.positions with
  | [] => .error .unknownArgument
  | parameter :: positions => do
      let settled ← reading.settle
      pure { settled with pending := some (parameter, [word]), positions }

end Reading

inductive Word where
  | endOfOptions
  | long (name : String) (value : Option String)
  | letters (cluster : List Char)
  | plain

def Word.of (argument : String) : Word :=
  match argument.toList with
  | ['-', '-'] => .endOfOptions
  | '-' :: '-' :: rest =>
      let value := rest.dropWhile (· != '=')
      .long (String.ofList (rest.takeWhile (· != '=')))
        (if value.isEmpty then none else some (String.ofList (value.drop 1)))
  | '-' :: letter :: rest => .letters (letter :: rest)
  | _ => .plain

namespace Grammar

def readLong (grammar : Grammar) (reading : Reading) (name : String) (value : Option String) :
    Except UsageFault Reading :=
  match grammar.options.find? fun option => option.name == name with
  | none => .error .unknownArgument
  | some option =>
      match option.takesValue, value with
      | true, some value => reading.accept option [value]
      | true, none => reading.await option
      | false, some _ => .error .unwantedValue
      | false, none => reading.accept option []

-- Switches may share a dash; the first option with a value takes the rest as its value.
def readLetters (grammar : Grammar) (reading : Reading) : List Char → Except UsageFault Reading
  | [] => .ok reading
  | letter :: rest =>
      match grammar.options.find? fun option => option.letter == some letter with
      | none => .error .unknownArgument
      | some option =>
          match option.takesValue, rest with
          | false, _ => do readLetters grammar (← reading.accept option []) rest
          | true, [] => reading.await option
          | true, '=' :: value => reading.accept option [String.ofList value]
          | true, value => reading.accept option [String.ofList value]

def readPlaced (reading : Reading) : List String → Except UsageFault Reading
  | [] => .ok reading
  | word :: rest => do readPlaced (← reading.place word) rest

def readFrom (grammar : Grammar) (reading : Reading) : List String → Except UsageFault Arguments
  | [] => do pure (← reading.settle).arguments
  | argument :: rest => do
      match Word.of argument with
      | .endOfOptions => do pure (← (← readPlaced reading rest).settle).arguments
      | .long name value => do readFrom grammar (← grammar.readLong reading name value) rest
      | .letters cluster => do readFrom grammar (← grammar.readLetters reading cluster) rest
      | .plain =>
          if reading.isWaiting then readFrom grammar (reading.supply argument) rest
          else do readFrom grammar (← reading.place argument) rest

def read (grammar : Grammar) (arguments : List String) : Except UsageFault Arguments :=
  grammar.readFrom { positions := grammar.positions } arguments

end Grammar

end FleetRollout.CommandLine
