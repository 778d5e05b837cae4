import FleetRollout.Text.Blank

set_option autoImplicit false

/-!
Identifiers as callers write them. Clients wrap identifiers in braces and quotes; an identifier
in the shape of a UUID has one canonical spelling, hyphenated and in lower case.
-/

namespace FleetRollout.Identifier

open Text

def isDecoration (character : Char) : Bool :=
  character == '\x7b' || character == '\x7d' || character == '"' || character == '\''

def bare (external : String) : String :=
  String.ofList (stripWhere isDecoration (trimmed external.toList))

def hexDigit? (character : Char) : Option Char :=
  if character.isDigit || ('a' ≤ character && character ≤ 'f') then some character
  else if 'A' ≤ character && character ≤ 'F' then some character.toLower
  else none

def hyphenate (digits : List Char) : List Char :=
  digits.take 8 ++ '-' :: (digits.drop 8).take 4 ++ '-' :: (digits.drop 12).take 4 ++
    '-' :: (digits.drop 16).take 4 ++ '-' :: digits.drop 20

def unhyphenate? (characters : List Char) : Option (List Char) :=
  let digits := characters.filter (· != '-')
  if characters.length = 36 ∧ hyphenate digits = characters then some digits else none

def plainDigits? (characters : List Char) : Option (List Char) :=
  if characters.length = 32 then some characters
  else if characters.length = 36 then unhyphenate? characters
  else if characters.length = 45 ∧ (characters.take 9).map Char.toLower = "urn:uuid:".toList then
    unhyphenate? (characters.drop 9)
  else none

def canonicalUuid (external : String) : Option String := do
  let digits ← plainDigits? (bare external).toList
  let lower ← digits.mapM hexDigit?
  if lower.length = 32 then some (String.ofList (hyphenate lower)) else none

-- The random UUID (version 4) whose free bits are `number`, but for the two highest bits of the
-- variant digit, which stay fixed.
def numbered (number : Nat) : String :=
  let free := (Nat.toDigits 16 (number % Nat.pow 16 30))
  let digits := List.replicate (30 - free.length) '0' ++ free
  let marked := digits.take 12 ++ '4' :: (digits.drop 12).take 3 ++ '8' :: digits.drop 15
  String.ofList (hyphenate marked)

/-- A placeholder id of a test client, eight to twelve characters of any kind between hyphens. -/
def isSynthetic (instanceId : String) : Bool :=
  let characters := instanceId.toList
  let inner := (characters.drop 1).take 36
  characters.length = 38 && characters.head? == some '\x7b' && characters.getLast? == some '\x7d' &&
    inner.all (· != '\n') && [8, 13, 18, 23].all fun position => inner[position]? == some '-'

end FleetRollout.Identifier
