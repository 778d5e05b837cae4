set_option autoImplicit false

namespace FleetRollout

inductive Document where
  | null
  | boolean (value : Bool)
  | integer (value : Int)
  | real (value : Float)
  -- A date or time, as it is spelled; no record of the program holds one.
  | moment (spelling : String)
  | text (value : String)
  | list (items : List Document)
  | table (fields : List (String × Document))
  deriving Inhabited

namespace Document

def number (value : Nat) : Document := .integer value

def optional {α : Type} (encode : α → Document) : Option α → Document
  | none => .null
  | some value => encode value

def texts (values : List String) : Document := .list (values.map .text)

-- The last field of a name counts.
def field? (fields : List (String × Document)) (name : String) : Option Document :=
  (fields.reverse.find? fun field => field.1 == name).map (·.2)

end Document

end FleetRollout
