import FleetRollout.CommandLine.Help
import FleetRollout.CommandLine.Run
import FleetRollout.Document.Json.Printer
import FleetRollout.Document.Json.Reader
import FleetRollout.Record.Store
import Std.Time.DateTime.Timestamp

set_option autoImplicit false

/-!
The program: one command per run against the store of a file. The store is read before the command
and written after it, also after a command that failed, for what it did first stays done.
-/

open FleetRollout

namespace FleetRollout.Main

def readIfPresent (path : String) : IO (Option String) := do
  try
    pure (some (← IO.FS.readFile path))
  catch error =>
    match error with
    | .noFileOrDirectory .. => pure none
    | _ => throw error

def loadSettings : Option String → IO Settings
  | none => pure {}
  | some path => do
      let text ← IO.FS.readFile path
      match (Toml.parse? text).bind (Settings.codec.decode .toml) with
      | some settings => pure settings
      | none => throw (IO.userError ("parse config " ++ path))

def loadStore (path : String) : IO Store := do
  match ← readIfPresent path with
  | none => pure .empty
  | some text =>
      match (Json.parse? text).bind (Store.codec.decode .json) with
      | some store => pure store
      | none => throw (IO.userError ("open store " ++ path))

def folderOf (path : String) : String :=
  String.ofList ((path.toList.reverse.dropWhile (· != '/')).drop 1).reverse

def saveStore (path : String) (store : Store) : IO Unit := do
  let folder := folderOf path
  if !folder.isEmpty then IO.FS.createDirAll folder
  IO.FS.writeFile path (Json.pretty (Store.codec.encode store))

def currentSecond : IO Nat := do
  pure (← Std.Time.Timestamp.now).toSecondsSinceUnixEpoch.val.toNat

def randomNumber : IO Nat := do
  pure ((← IO.getRandomBytes 16).toList.foldl (fun number byte => 256 * number + byte.toNat) 0)

def manifestText : Command → IO (Option String)
  | .apply path => readIfPresent path
  | _ => pure none

def runInvocation (invocation : Invocation) : IO UInt32 := do
  let settings ← loadSettings invocation.configPath
  let storePath := invocation.storePath.getD settings.store.path
  let engine : Engine :=
    { store := ← loadStore storePath
      config := settings.engine
      now := ← currentSecond
      nextId := ← randomNumber }
  let manifest ← manifestText invocation.command
  let (answer, engine) := (ExceptT.run (invocation.command.run fun _ => manifest)).run engine
  saveStore storePath engine.store
  match answer with
  | .ok document => do
      IO.println (Json.pretty document)
      pure 0
  | .error error => do
      IO.eprintln ("Error: " ++ error.message)
      pure 1

end FleetRollout.Main

def main (arguments : List String) : IO UInt32 := do
  match Invocation.parse arguments with
  | .ok invocation =>
      try FleetRollout.Main.runInvocation invocation
      catch error =>
        IO.eprintln ("Error: " ++ toString error)
        pure 1
  | .error fault =>
      if fault.isRequest then
        IO.println fault.message
        pure 0
      else
        IO.eprintln fault.message
        pure 2
