import FleetRollout.Document.Basic

set_option autoImplicit false

/-!
The tree that the statements of a TOML text build. Every table remembers how it came to be: by a
header of its own, as a step on the way to another header, or by a key with points. A table is
opened by a header once, and a key with points goes through no table that has a header.
-/

namespace FleetRollout.Toml

inductive Origin where
  | header
  | implied
  | pointed
  deriving Repr, DecidableEq

inductive Node where
  | value (document : Document)
  | table (origin : Origin) (children : List (String × Node))
  -- Tables opened one after the other under the same name; statements go to the last one.
  | tables (elements : List (List (String × Node)))
  deriving Inhabited

abbrev Children := List (String × Node)

structure KeyPath where
  parents : List String
  last : String
  deriving Repr, DecidableEq

inductive Statement where
  | openTable (path : KeyPath)
  | openElement (path : KeyPath)
  | assign (path : KeyPath) (value : Document)

namespace Node

mutual

def document : Node → Document
  | .value document => document
  | .table _ children => .table (fields children)
  | .tables elements => .list (items elements)

def fields : List (String × Node) → List (String × Document)
  | [] => []
  | (name, node) :: rest => (name, document node) :: fields rest

def items : List (List (String × Node)) → List Document
  | [] => []
  | children :: rest => .table (fields children) :: items rest

end

end Node

namespace Children

def node? (children : Children) (name : String) : Option Node :=
  (children.find? fun child => child.1 == name).map (·.2)

def set (children : Children) (name : String) (node : Node) : Children :=
  if (node? children name).isSome then
    children.map fun child => if child.1 = name then (name, node) else child
  else children ++ [(name, node)]

-- Changes the table at the end of a path. Tables that are missing on the way come to be with the
-- origin `made`.
def alter? (made : Origin) (change : Origin → Children → Option Children) :
    List String → Origin → Children → Option Children
  | [], origin, children => change origin children
  | name :: path, _, children =>
      match node? children name with
      | none => do
          let inner ← alter? made change path made []
          some (set children name (.table made inner))
      | some (.table origin inner) => do
          if made = .pointed ∧ origin = .header then none
          else
            let inner ← alter? made change path origin inner
            some (set children name (.table origin inner))
      | some (.tables elements) => do
          let inner ← alter? made change path .header (elements.getLast?.getD [])
          some (set children name (.tables (elements.dropLast ++ [inner])))
      | some (.value _) => none

def openTable (name : String) (_ : Origin) (children : Children) : Option Children :=
  match node? children name with
  | none => some (set children name (.table .header []))
  | some (.table .implied inner) => some (set children name (.table .header inner))
  | some _ => none

def openElement (name : String) (_ : Origin) (children : Children) : Option Children :=
  match node? children name with
  | none => some (set children name (.tables [[]]))
  | some (.tables elements) => some (set children name (.tables (elements ++ [[]])))
  | some _ => none

-- A key with points adds to tables made by such keys, a plain key to all others.
def assign (path : KeyPath) (value : Document) : Origin → Children → Option Children :=
  alter? .pointed
    (fun origin children =>
      if (origin == .pointed) == path.parents.isEmpty || (node? children path.last).isSome then none
      else some (set children path.last (.value value)))
    path.parents

end Children

structure Building where
  root : Children := []
  current : List String := []

def Building.add (building : Building) : Statement → Option Building
  | .openTable path => do
      let root ← building.root.alter? .implied (Children.openTable path.last) path.parents .header
      some { root, current := path.parents ++ [path.last] }
  | .openElement path => do
      let root ← building.root.alter? .implied (Children.openElement path.last) path.parents .header
      some { root, current := path.parents ++ [path.last] }
  | .assign path value => do
      let root ←
        building.root.alter? .implied (Children.assign path value) building.current .header
      some { building with root }

def documentOf? (statements : List Statement) : Option Document := do
  let building ← statements.foldlM Building.add {}
  some (.table (Node.fields building.root))

def inlineTable? (assignments : List (KeyPath × Document)) : Option Document := do
  let children ← assignments.foldlM
    (fun children assignment => Children.assign assignment.1 assignment.2 .header children) []
  some (.table (Node.fields children))

end FleetRollout.Toml
