import FleetRollout.CommandLine.Usage

set_option autoImplicit false

namespace FleetRollout.CommandLine

def overview : String :=
  "\n".intercalate
    ["Usage: fleet-rollout [--config PATH] [--store PATH] COMMAND",
      "",
      "Commands:",
      "  apply MANIFEST   Create or update the catalog that a manifest describes",
      "  check-in         Run one client check-in and print the answer",
      "  event            Report one progress event of an instance",
      "  floors           List a channel's floors, or those a version has to pass",
      "  stats            Show a group's rollout in figures",
      "  history          Show the statuses an instance went through",
      "  activity         Show the milestones of an application",
      "  help             Show this text"]

def programVersion : String := "fleet-rollout 0.1.0"

namespace UsageFault

def isRequest : UsageFault → Bool
  | .help | .version => true
  | _ => false

def message : UsageFault → String
  | .help | .nothingGiven => overview
  | .version => programVersion
  | .missingCommand => "error: a command is required"
  | .unknownCommand => "error: unknown command"
  | .unknownArgument => "error: unexpected argument"
  | .missingArgument => "error: a required argument was not given"
  | .emptyValue => "error: a value is required for an option"
  | .malformedValue => "error: invalid value for an option"
  | .unwantedValue => "error: unexpected value for an option"
  | .repeated => "error: an option cannot be used more than once"

end UsageFault

end FleetRollout.CommandLine
