import FleetRollout.Text.Reader

set_option autoImplicit false

namespace FleetRollout.Toml

open Text

def isPlain (character : Char) : Bool :=
  character == '\t' || (0x20 ≤ character.toNat && character.toNat != 0x7F)

def isSpace (character : Char) : Bool :=
  character == ' ' || character == '\t'

def skipSpace (characters : List Char) : List Char :=
  characters.dropWhile isSpace

def startsLine : List Char → Bool
  | '\n' :: _ => true
  | '\r' :: '\n' :: _ => true
  | _ => false

-- The character of a code point; the halves of surrogate pairs are none.
def characterOf? (point : Nat) : Option Char :=
  if point.isValidChar then some (Char.ofNat point) else none

def escaped? : Char → Option Char
  | '"' => some '"'
  | '\\' => some '\\'
  | 'b' => some '\x08'
  | 'f' => some '\x0c'
  | 'n' => some '\n'
  | 'r' => some '\r'
  | 't' => some '\t'
  | _ => none

def readPoint (width : Nat) : Reader Char := fun characters => do
  let digits := characters.take width
  if digits.length = width then
    some (← characterOf? (← hexNumber? digits), characters.drop width)
  else none

def readEscape : Reader Char
  | 'u' :: rest => readPoint 4 rest
  | 'U' :: rest => readPoint 8 rest
  | character :: rest => do some (← escaped? character, rest)
  | [] => none

structure Style where
  quote : Char
  hasEscapes : Bool

def escaping : Style where
  quote := '"'
  hasEscapes := true

def verbatim : Style where
  quote := '\''
  hasEscapes := false

-- Text in one line, up to its closing quote. The number bounds the calls.
def readLine (style : Style) : Nat → Reader (List Char)
  | 0, _ => none
  | _ + 1, [] => none
  | fuel + 1, character :: rest =>
      if character = style.quote then some ([], rest)
      else if style.hasEscapes ∧ character = '\\' then do
        let (meant, rest) ← readEscape rest
        let (text, rest) ← readLine style fuel rest
        some (meant :: text, rest)
      else if isPlain character then do
        let (text, rest) ← readLine style fuel rest
        some (character :: text, rest)
      else none

-- A block, up to its three closing quotes; one or two more before them belong to the text. A
-- backslash at the end of a line takes the blanks and line breaks after it along.
def readBlock (style : Style) : Nat → Reader (List Char)
  | 0, _ => none
  | _ + 1, [] => none
  | fuel + 1, character :: rest =>
      if character = style.quote ∧ rest.take 2 = [style.quote, style.quote] then
        let extra := min 2 ((rest.drop 2).takeWhile (· == style.quote)).length
        some (List.replicate extra style.quote, rest.drop (2 + extra))
      else if style.hasEscapes ∧ character = '\\' then
        if startsLine (skipSpace rest) then
          readBlock style fuel (skipBreaks fuel (skipSpace rest))
        else do
          let (meant, rest) ← readEscape rest
          let (text, rest) ← readBlock style fuel rest
          some (meant :: text, rest)
      else if isPlain character || character = '\n' then do
        let (text, rest) ← readBlock style fuel rest
        some (character :: text, rest)
      else if startsLine (character :: rest) then readBlock style fuel rest
      else none
where
  skipBreaks : Nat → List Char → List Char
    | fuel + 1, '\r' :: '\n' :: rest => skipBreaks fuel rest
    | fuel + 1, character :: rest =>
        if isSpace character || character = '\n' then skipBreaks fuel rest else character :: rest
    | _, characters => characters

def dropBreak : List Char → List Char
  | '\r' :: '\n' :: rest => rest
  | '\n' :: rest => rest
  | characters => characters

def readQuotedLine : Reader String
  | character :: rest => do
      let style ← [escaping, verbatim].find? fun style => style.quote == character
      let (text, rest) ← readLine style (rest.length + 1) rest
      some (String.ofList text, rest)
  | [] => none

def readQuoted : Reader String := fun characters => do
  let style ← [escaping, verbatim].find? fun style => characters.head? == some style.quote
  if characters.take 3 = List.replicate 3 style.quote then
    let inside := dropBreak (characters.drop 3)
    let (text, rest) ← readBlock style (inside.length + 1) inside
    some (String.ofList text, rest)
  else readQuotedLine characters

end FleetRollout.Toml
