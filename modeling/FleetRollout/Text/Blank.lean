set_option autoImplicit false

namespace FleetRollout.Text

def blankRanges : List (Nat × Nat) :=
  [(0x09, 0x0D), (0x20, 0x20), (0x85, 0x85), (0xA0, 0xA0), (0x1680, 0x1680), (0x2000, 0x200A),
    (0x2028, 0x2029), (0x202F, 0x202F), (0x205F, 0x205F), (0x3000, 0x3000)]

def inRanges (ranges : List (Nat × Nat)) (character : Char) : Bool :=
  ranges.any fun range => range.1 ≤ character.toNat && character.toNat ≤ range.2

def isBlank (character : Char) : Bool :=
  inRanges blankRanges character

def isControl (character : Char) : Bool :=
  inRanges [(0x00, 0x1F), (0x7F, 0x9F)] character

def stripWhere (drop : Char → Bool) (characters : List Char) : List Char :=
  ((characters.dropWhile drop).reverse.dropWhile drop).reverse

def trimmed (characters : List Char) : List Char :=
  stripWhere isBlank characters

def trim (text : String) : String :=
  String.ofList (trimmed text.toList)

def isBlankText (text : String) : Bool :=
  text.toList.all isBlank

def lowercase (text : String) : String :=
  String.ofList (text.toList.map Char.toLower)

end FleetRollout.Text
