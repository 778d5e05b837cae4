import FleetRollout.Document.Toml.Quoted
import FleetRollout.Document.Toml.Scalar
import FleetRollout.Document.Toml.Tree

set_option autoImplicit false

namespace FleetRollout.Toml

open Text

-- How many lists and inline tables may enclose a value, and how many names a key may have.
def deepest : Nat := 79

def isBareKey (character : Char) : Bool :=
  character.isAlphanum || character == '_' || character == '-'

def readKeyName : Reader String := fun characters =>
  let bare := characters.takeWhile isBareKey
  if bare.isEmpty then readQuotedLine characters
  else some (String.ofList bare, characters.drop bare.length)

def readNames : Nat → Reader (List String)
  | more, characters => do
      let (name, rest) ← readKeyName (skipSpace characters)
      match more, skipSpace rest with
      | more + 1, '.' :: rest => do
          let (names, rest) ← readNames more rest
          some (name :: names, rest)
      | _, rest => some ([name], rest)

def readKey : Reader KeyPath := fun characters => do
  let (names, rest) ← readNames (deepest - 1) characters
  some ({ parents := names.dropLast, last := names.getLastD "" }, rest)

def skipLines (inComment : Bool) : List Char → Option (List Char)
  | [] => some []
  | '\r' :: '\n' :: rest => skipLines false rest
  | '\n' :: rest => skipLines false rest
  | character :: rest =>
      if inComment then if isPlain character then skipLines true rest else none
      else if character = '#' then skipLines true rest
      else if isSpace character then skipLines false rest
      else some (character :: rest)

def endLine (inComment : Bool) : List Char → Option (List Char)
  | [] => some []
  | '\r' :: '\n' :: rest => some rest
  | '\n' :: rest => some rest
  | character :: rest =>
      if inComment then if isPlain character then endLine true rest else none
      else if character = '#' then endLine true rest
      else if isSpace character then endLine false rest
      else none

mutual

def readValue : Nat → Nat → Reader Document
  | 0, _, _ => none
  | fuel + 1, depth, characters =>
      match characters with
      | 't' :: 'r' :: 'u' :: 'e' :: rest => some (.boolean true, rest)
      | 'f' :: 'a' :: 'l' :: 's' :: 'e' :: rest => some (.boolean false, rest)
      | '[' :: rest => do
          if depth = 0 then none
          else
            match ← skipLines false rest with
            | ']' :: rest => some (.list [], rest)
            | rest => do
                let (items, rest) ← readItems fuel (depth - 1) rest
                some (.list items, rest)
      | '\x7b' :: rest =>
          if depth = 0 then none
          else
            match skipSpace rest with
            | '\x7d' :: rest => some (.table [], rest)
            | rest => do
                let (assignments, rest) ← readAssignments fuel (depth - 1) rest
                some (← inlineTable? assignments, rest)
      | '"' :: _ => (readQuoted characters).map fun (text, rest) => (.text text, rest)
      | '\'' :: _ => (readQuoted characters).map fun (text, rest) => (.text text, rest)
      | _ => readMoment characters <|> readNumber characters

def readItems : Nat → Nat → Reader (List Document)
  | 0, _, _ => none
  | fuel + 1, depth, characters => do
      let (item, rest) ← readValue fuel depth (← skipLines false characters)
      match ← skipLines false rest with
      | ']' :: rest => some ([item], rest)
      | ',' :: rest => do
          match ← skipLines false rest with
          | ']' :: rest => some ([item], rest)
          | rest => do
              let (items, rest) ← readItems fuel depth rest
              some (item :: items, rest)
      | _ => none

def readAssignments : Nat → Nat → Reader (List (KeyPath × Document))
  | 0, _, _ => none
  | fuel + 1, depth, characters => do
      let (path, rest) ← readKey characters
      let (_, rest) ← readCharacter '=' rest
      let (value, rest) ← readValue fuel depth (skipSpace rest)
      match skipSpace rest with
      | '\x7d' :: rest => some ([(path, value)], rest)
      | ',' :: rest => do
          let (assignments, rest) ← readAssignments fuel depth rest
          some ((path, value) :: assignments, rest)
      | _ => none

end

def readStatement : Reader Statement
  | '[' :: '[' :: rest => do
      let (path, rest) ← readKey rest
      let (_, rest) ← readCharacter ']' rest
      let (_, rest) ← readCharacter ']' rest
      some (.openElement path, rest)
  | '[' :: rest => do
      let (path, rest) ← readKey rest
      let (_, rest) ← readCharacter ']' rest
      some (.openTable path, rest)
  | characters => do
      let (path, rest) ← readKey characters
      let (_, rest) ← readCharacter '=' rest
      let (value, rest) ← readValue (rest.length + 1) deepest (skipSpace rest)
      some (.assign path value, rest)

-- The statements of a text; the number bounds the calls.
def readStatements : Nat → List Char → Option (List Statement)
  | 0, _ => none
  | fuel + 1, characters => do
      match ← skipLines false characters with
      | [] => some []
      | rest => do
          let (statement, rest) ← readStatement rest
          let statements ← readStatements fuel (← endLine false rest)
          some (statement :: statements)

-- The document a text consists of. A byte order mark may stand at its front.
def parse? (text : String) : Option Document := do
  let characters :=
    match text.toList with
    | '\uFEFF' :: rest => rest
    | characters => characters
  documentOf? (← readStatements (characters.length + 1) characters)

end FleetRollout.Toml
