import FleetRollout.Decimal.Shortest
import FleetRollout.Document.Basic
import FleetRollout.Text.Numeral

set_option autoImplicit false

namespace FleetRollout.Json

def writtenCharacter (character : Char) : String :=
  match character with
  | '"' => "\\\""
  | '\\' => "\\\\"
  | '\n' => "\\n"
  | '\r' => "\\r"
  | '\t' => "\\t"
  | '\x08' => "\\b"
  | '\x0c' => "\\f"
  | _ =>
      if character.toNat < 0x20 then
        let digits := Nat.toDigits 16 character.toNat
        "\\u" ++ String.ofList (List.replicate (4 - digits.length) '0' ++ digits)
      else String.singleton character

def writtenText (text : String) : String :=
  "\"" ++ String.join (text.toList.map writtenCharacter) ++ "\""

structure Layout where
  breakAt : Nat → String
  afterColon : String

def compact : Layout where
  breakAt _ := ""
  afterColon := ""

def indented : Layout where
  breakAt depth := "\n" ++ String.ofList (List.replicate (2 * depth) ' ')
  afterColon := " "

def enclosed (layout : Layout) (depth : Nat) (opening closing : String) (parts : List String) :
    String :=
  if parts.isEmpty then opening ++ closing
  else
    opening ++ layout.breakAt (depth + 1) ++
      ("," ++ layout.breakAt (depth + 1)).intercalate parts ++ layout.breakAt depth ++ closing

mutual

def write (layout : Layout) (real : Float → String) (depth : Nat) : Document → String
  | .null => "null"
  | .boolean value => if value then "true" else "false"
  | .integer value => toString value
  | .real value => real value
  | .moment spelling => writtenText spelling
  | .text value => writtenText value
  | .list items => enclosed layout depth "[" "]" (writeItems layout real (depth + 1) items)
  | .table fields =>
      enclosed layout depth "\x7b" "\x7d" (writeFields layout real (depth + 1) fields)

def writeItems (layout : Layout) (real : Float → String) (depth : Nat) : List Document → List String
  | [] => []
  | item :: rest => write layout real depth item :: writeItems layout real depth rest

def writeFields (layout : Layout) (real : Float → String) (depth : Nat) :
    List (String × Document) → List String
  | [] => []
  | (name, value) :: rest =>
      (writtenText name ++ ":" ++ layout.afterColon ++ write layout real depth value) ::
        writeFields layout real depth rest

end

def pretty (document : Document) : String :=
  write indented Decimal.render 0 document

end FleetRollout.Json
