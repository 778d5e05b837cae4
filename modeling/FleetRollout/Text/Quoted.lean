import FleetRollout.Text.Printable

set_option autoImplicit false

namespace FleetRollout.Text.Quoted

def hexadecimal (value : Nat) : String :=
  String.ofList (Nat.toDigits 16 value)

def written (character : Char) : String :=
  match character with
  | '"' => "\\\""
  | '\\' => "\\\\"
  | '\n' => "\\n"
  | '\r' => "\\r"
  | '\t' => "\\t"
  | '\x00' => "\\0"
  | _ =>
      if isPrintable character then String.singleton character
      else "\\u\x7b" ++ hexadecimal character.toNat ++ "\x7d"

end Quoted

def quoted (text : String) : String :=
  "\"" ++ String.join (text.toList.map Quoted.written) ++ "\""

end FleetRollout.Text
