import FleetRollout.Document.Basic
import FleetRollout.Text.Numeral

set_option autoImplicit false

/-!
Codecs: how a value is written as a document and read back. A record names its fields in order
and how many of them, counted to the last one without a default, a list has to hold. Fields a
record does not know are ignored; an optional field may be null or absent. Where a document comes
from counts in two places: what stands for nothing, and whether a list may go on behind the
fields of a record.
-/

namespace FleetRollout

inductive Format where
  | json
  | toml
  deriving Repr, DecidableEq

-- TOML has no null, so an empty list or table stands for nothing there.
def Format.isNothing : Format → Document → Bool
  | .json, .null => true
  | .toml, .list [] => true
  | .toml, .table [] => true
  | _, _ => false

structure Codec (α : Type) where
  encode : α → Document
  decode : Format → Document → Option α

namespace Codec

def text : Codec String where
  encode := .text
  decode
    | _, .text value => some value
    | _, _ => none

def boolean : Codec Bool where
  encode := .boolean
  decode
    | _, .boolean value => some value
    | _, _ => none

def below (limit : Nat) : Codec Nat where
  encode := .number
  decode
    | _, .integer (.ofNat value) => if value < limit then some value else none
    | _, _ => none

def word : Codec Nat := below Text.wordSize

def word32 : Codec Nat := below (Nat.pow 2 32)

def named {α : Type} (name : α → String) (named? : String → Option α) : Codec α where
  encode value := .text (name value)
  decode
    | _, .text value => named? value
    -- A name may also stand as the only key of a table, over nothing.
    | format, .table [(key, value)] => if format.isNothing value then named? key else none
    | _, _ => none

def list {α : Type} (codec : Codec α) : Codec (List α) where
  encode values := .list (values.map codec.encode)
  decode
    | format, .list items => items.mapM (codec.decode format)
    | _, _ => none

def optional {α : Type} (codec : Codec α) : Codec (Option α) where
  encode := Document.optional codec.encode
  decode
    | _, .null => some none
    | format, document => (codec.decode format document).map some

end Codec

structure Fields where
  format : Format
  entries : List (String × Document)

namespace Fields

-- The fields of a table, or those of a list by their position; a moment has none of them. A list in
-- JSON ends with the fields, one in TOML may go on.
def of? (format : Format) (names : List String) (least : Nat) (document : Document) :
    Option Fields :=
  match document with
  | .table entries => some { format, entries }
  | .moment _ => some { format, entries := [] }
  | .list items =>
      if least ≤ items.length ∧ (format = .json → items.length ≤ names.length) then
        some { format, entries := names.zip items }
      else none
  | _ => none

def get? (fields : Fields) (name : String) : Option Document :=
  Document.field? fields.entries name

def required {α : Type} (fields : Fields) (name : String) (codec : Codec α) : Option α :=
  (fields.get? name).bind (codec.decode fields.format)

def optional {α : Type} (fields : Fields) (name : String) (codec : Codec α) : Option (Option α) :=
  match fields.get? name with
  | none => some none
  | some document => codec.optional.decode fields.format document

-- A field that may be absent, but not null.
def orDefault {α : Type} (fields : Fields) (name : String) (codec : Codec α) (default : α) :
    Option α :=
  match fields.get? name with
  | none => some default
  | some document => codec.decode fields.format document

end Fields

end FleetRollout
