import FleetRollout.Text.Blank
import FleetRollout.Text.Quoted

set_option autoImplicit false

namespace FleetRollout

inductive Architecture where
  | all
  | amd64
  | aarch64
  | x86
  deriving Repr, DecidableEq

namespace Architecture

def name : Architecture → String
  | .all => "all"
  | .amd64 => "amd64"
  | .aarch64 => "aarch64"
  | .x86 => "x86"

def every : List Architecture := [.all, .amd64, .aarch64, .x86]

def named? (text : String) : Option Architecture :=
  every.find? fun architecture => architecture.name == text

-- The spellings clients report, in any case and with blanks around; nothing at all means `all`.
def reported? (text : String) : Option Architecture :=
  match Text.lowercase (Text.trim text) with
  | "all" | "" => some .all
  | "amd64" | "x64" | "x86_64" => some .amd64
  | "aarch64" | "arm64" => some .aarch64
  | "x86" | "i686" => some .x86
  | _ => none

def unknownMessage (text : String) : String :=
  "unknown architecture " ++ Text.quoted text

end Architecture

end FleetRollout
