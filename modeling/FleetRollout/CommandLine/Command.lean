import FleetRollout.CommandLine.Usage
import FleetRollout.Engine.Requests
import FleetRollout.Engine.Statistics

set_option autoImplicit false

/-!
The commands of the program and the reading of a whole command line. Every command also takes the
options that stand for all commands; of such an option the value closest to the end is used.
-/

namespace FleetRollout

open CommandLine

inductive Command where
  | apply (manifestPath : String)
  | checkIn (request : CheckInRequest)
  | event (report : EventReport)
  | floors (channelId : String) (version : Option String)
  | stats (groupId : String) (window : Window)
  | history (application instanceId : String) (limit : Nat)
  | activity (applicationId : String) (since : Nat)

structure CommandForm where
  name : String
  grammar : Grammar
  command? : Arguments → Option Command

namespace CommandForm

def malformedUnless (isWellFormed : String → Bool) (text : String) : Option UsageFault :=
  if isWellFormed text then none else some .malformedValue

def path (name : String) (letter : Option Char := none) : Parameter :=
  { name, letter, fault? := fun text => if text.isEmpty then some .emptyValue else none }

def named (name : String) : Parameter := { name }

def switch (name : String) : Parameter := { name, arity := .switch }

def event? (text : String) : Option ProgressEvent :=
  (ProgressEvent.parse text).toOption

def window? (text : String) : Option Window :=
  (Window.parse text).toOption

def number? (text : String) : Option Nat :=
  (Text.readNumeral Text.wordSize text.toList).toOption

def event (arity : Arity) : Parameter :=
  { name := "event", arity, fault? := malformedUnless fun text => (event? text).isSome }

def window : Parameter :=
  { name := "window", fault? := malformedUnless fun text => (window? text).isSome }

def number (name : String) : Parameter :=
  { name, fault? := malformedUnless fun text => (number? text).isSome }

def meaningOr {α : Type} (arguments : Arguments) (name default : String)
    (meaning? : String → Option α) : Option α :=
  meaning? ((arguments.value? name).getD default)

def apply : CommandForm where
  name := "apply"
  grammar := { options := [], positions := [path "manifest"] }
  command? arguments := do some (.apply (← arguments.value? "manifest"))

def checkIn : CommandForm where
  name := "check-in"
  grammar :=
    { options :=
        [named "app", named "track", named "instance", named "instance-version", named "ip",
          named "arch", named "alias", event .many, switch "no-update-check",
          switch "multi-manifest"] }
  command? arguments := do
    some (.checkIn
      { applicationId := ← arguments.value? "app"
        track := ← arguments.value? "track"
        instanceId := ← arguments.value? "instance"
        version := ← arguments.value? "instance-version"
        ip := (arguments.value? "ip").getD "127.0.0.1"
        architecture := (arguments.value? "arch").getD ""
        nickname := arguments.value? "alias"
        events := ← (arguments.all "event").mapM event?
        updateCheck := !arguments.has "no-update-check"
        multiManifest := arguments.has "multi-manifest" })

def report : CommandForm where
  name := "event"
  grammar :=
    { options :=
        [named "app", named "group", named "instance", event .single, named "error-code"] }
  command? arguments := do
    let event ← event? (← arguments.value? "event")
    some (.event
      { applicationId := ← arguments.value? "app"
        groupId := ← arguments.value? "group"
        instanceId := ← arguments.value? "instance"
        event := { event with errorCode := arguments.value? "error-code" } })

def floors : CommandForm where
  name := "floors"
  grammar := { options := [named "channel", named "from"] }
  command? arguments := do
    some (.floors (← arguments.value? "channel") (arguments.value? "from"))

def stats : CommandForm where
  name := "stats"
  grammar := { options := [named "group", window] }
  command? arguments := do
    some (.stats (← arguments.value? "group") (← meaningOr arguments "window" "1d" window?))

def history : CommandForm where
  name := "history"
  grammar := { options := [named "app", named "instance", number "limit"] }
  command? arguments := do
    some (.history (← arguments.value? "app") (← arguments.value? "instance")
      (← meaningOr arguments "limit" "20" number?))

def activity : CommandForm where
  name := "activity"
  grammar := { options := [named "app", number "since"] }
  command? arguments := do
    some (.activity (← arguments.value? "app") (← meaningOr arguments "since" "0" number?))

def every : List CommandForm := [apply, checkIn, report, floors, stats, history, activity]

def find? (name : String) : Option CommandForm :=
  every.find? fun form => form.name == name

end CommandForm

structure Invocation where
  configPath : Option String := none
  storePath : Option String := none
  command : Command

namespace Invocation

def helpName : String := "help"

def sharedOptions : List Parameter :=
  [CommandForm.path "config" (some 'c'), CommandForm.path "store",
    { name := "help", letter := some 'h', arity := .request .help },
    { name := "version", letter := some 'V', arity := .request .version }]

def withShared (grammar : Grammar) : Grammar :=
  { grammar with options := grammar.options ++ sharedOptions }

def isCommandName (word : String) : Bool :=
  word = helpName || (CommandForm.find? word).isSome

def helpFault : List String → UsageFault
  | [] => .help
  | [word] => if isCommandName word then .help else .unknownCommand
  | _ => .unknownCommand

def faultWithout (reading : Reading) : UsageFault :=
  match reading.settle with
  | .error fault => fault
  | .ok settled => if settled.arguments.given.isEmpty then .nothingGiven else .missingCommand

-- Runs the words after a command through its grammar, before what came ahead of it is settled.
def ofForm (form : CommandForm) (reading : Reading) (words : List String) :
    Except UsageFault Invocation := do
  let arguments ← (withShared form.grammar).read words
  let command ←
    match form.command? arguments with
    | some command => pure command
    | none => throw .missingArgument
  let ahead := (← reading.settle).arguments
  pure
    { configPath := arguments.value? "config" <|> ahead.value? "config"
      storePath := arguments.value? "store" <|> ahead.value? "store"
      command }

def readFrom (reading : Reading) : List String → Except UsageFault Invocation
  | [] => .error (faultWithout reading)
  | word :: rest => do
      let isValue := reading.isWaiting
      if !isValue && word = helpName then throw (helpFault rest)
      match if isValue then none else CommandForm.find? word with
      | some form => ofForm form reading rest
      | none =>
          match Word.of word with
          | .endOfOptions =>
              match rest with
              | [] => throw (faultWithout reading)
              | next :: _ =>
                  throw (if isCommandName next then .unknownArgument else .unknownCommand)
          | .long name value => do
              readFrom (← (withShared { options := [] }).readLong reading name value) rest
          | .letters cluster => do
              readFrom (← (withShared { options := [] }).readLetters reading cluster) rest
          | .plain => if isValue then readFrom (reading.supply word) rest else throw .unknownCommand

def parse (words : List String) : Except UsageFault Invocation :=
  readFrom {} words

end Invocation

end FleetRollout
