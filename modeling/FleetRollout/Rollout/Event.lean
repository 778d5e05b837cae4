import FleetRollout.Fleet.Status
import FleetRollout.Rollout.Error
import FleetRollout.Text.Numeral

set_option autoImplicit false

namespace FleetRollout

inductive EventKind where
  | updateComplete
  | downloadStarted
  | downloadFinished
  | installed
  deriving Repr, DecidableEq

namespace EventKind

def every : List EventKind := [.updateComplete, .downloadStarted, .downloadFinished, .installed]

def code : EventKind → Nat
  | .updateComplete => 3
  | .downloadStarted => 13
  | .downloadFinished => 14
  | .installed => 800

def ofCode? (code : Nat) : Option EventKind :=
  every.find? fun kind => kind.code == code

def name : EventKind → String
  | .updateComplete => "update_complete"
  | .downloadStarted => "download_started"
  | .downloadFinished => "download_finished"
  | .installed => "installed"

def named? (text : String) : Option EventKind :=
  every.find? fun kind => kind.name == text

def title : EventKind → String
  | .updateComplete => "UpdateComplete"
  | .downloadStarted => "DownloadStarted"
  | .downloadFinished => "DownloadFinished"
  | .installed => "Installed"

def label (kind : EventKind) : String :=
  kind.title ++ "(" ++ toString kind.code ++ ")"

end EventKind

inductive EventResult where
  | failed
  | success
  | successReboot
  deriving Repr, DecidableEq

namespace EventResult

def every : List EventResult := [.failed, .success, .successReboot]

def code : EventResult → Nat
  | .failed => 0
  | .success => 1
  | .successReboot => 2

def ofCode? (code : Nat) : Option EventResult :=
  every.find? fun result => result.code == code

def name : EventResult → String
  | .failed => "failed"
  | .success => "success"
  | .successReboot => "success_reboot"

def named? (text : String) : Option EventResult :=
  every.find? fun result => result.name == text

end EventResult

/-- Where a valid event leads, `none` for the one that leads nowhere. -/
def EventKind.outcome? : EventKind → EventResult → Option (Option Status)
  | _, .failed => some (some .error)
  | .downloadStarted, .success => some (some .downloading)
  | .downloadFinished, .success => some (some .downloaded)
  | .installed, .success => some (some .installed)
  | .updateComplete, .successReboot => some (some .complete)
  | .updateComplete, .success => some none
  | _, _ => none

structure ProgressEvent where
  kind : Nat
  result : Nat
  previousVersion : Option String := none
  errorCode : Option String := none
  deriving Repr, DecidableEq

namespace ProgressEvent

def status (event : ProgressEvent) : Except EngineError (Option Status) :=
  let outcome := do
    (← EventKind.ofCode? event.kind).outcome? (← EventResult.ofCode? event.result)
  match outcome with
  | some status => .ok status
  | none => .error (.invalidEvent event.kind event.result)

inductive SyntaxFault where
  | noColon (text : String)
  | badCode (text : String) (fault : Text.NumeralFault)
  deriving Repr, DecidableEq

def SyntaxFault.message : SyntaxFault → String
  | .noColon text => "expected TYPE:RESULT, got " ++ Text.quoted text
  | .badCode text fault => "invalid event code " ++ Text.quoted text ++ ": " ++ fault.message

-- Codes are 32-bit words; blanks around one are allowed.
def readCode (characters : List Char) : Except SyntaxFault Nat :=
  (Text.readNumeral (Nat.pow 2 32) (Text.trimmed characters)).mapError
    (.badCode (String.ofList characters))

def parse (text : String) : Except SyntaxFault ProgressEvent := do
  match Text.splitFirst ':' text.toList with
  | none => .error (.noColon text)
  | some (kind, result) => .ok { kind := ← readCode kind, result := ← readCode result }

end ProgressEvent

end FleetRollout
