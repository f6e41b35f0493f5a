import IrExcerpt.Toml.Value

/-!
# Tables from statements

A TOML text is a sequence of statements: headers that open a table or add one
to a list of tables, and assignments to keys, which belong to the table that
was opened last. Here the statements are put together. A table is opened by a
header once; tables on the way to it come to be without a header and may get
theirs later. A dotted key makes tables of its own, which no header opens and
which only dotted keys extend. A key gets a value once.
-/

namespace IrExcerpt.Toml

/-- A statement, its key split at the dots. -/
inductive Statement where
  | assign (path : List String) (value : Value)
  | openTable (path : List String)
  | addTable (path : List String)

/-- How a table came to be. -/
inductive Origin where
  /-- A header opened it. -/
  | header
  /-- It lies on the way to a table that a header opened. -/
  | implied
  /-- A dotted key made it. -/
  | dotted
deriving DecidableEq

/-- What a key stands for while a text is being read. -/
inductive Node where
  | leaf (value : Value)
  | table (origin : Origin) (fields : List (String × Node))
  /-- A list of tables that headers added. -/
  | tables (items : List (List (String × Node)))

/-- Keys and what they stand for, in the order they came. -/
abbrev Fields := List (String × Node)

namespace Fields

/-- The fields with `key` standing for `node`, in its place if it had one. -/
def put (key : String) (node : Node) : Fields → Fields
  | [] => [(key, node)]
  | (k, n) :: rest => if k = key then (key, node) :: rest else (k, n) :: put key node rest

/-- Gives a value to a dotted key. The last table on the way to the key must
have come from dotted keys. -/
def assign (value : Value) : List String → Fields → Option Fields
  | [], _ => none
  | [key], fields =>
    match fields.lookup key with
    | none => some (fields ++ [(key, .leaf value)])
    | some _ => none
  | key :: next :: path, fields =>
    match fields.lookup key with
    | none => do
      let inner ← assign value (next :: path) []
      return fields ++ [(key, .table .dotted inner)]
    | some (.table .dotted inner) => do
      let inner ← assign value (next :: path) inner
      return put key (.table .dotted inner) fields
    | some (.table .implied inner) => do
      if path.isEmpty then none
      let inner ← assign value (next :: path) inner
      return put key (.table .implied inner) fields
    | some (.tables items) => do
      if path.isEmpty then none
      let last ← items.getLast?
      let last ← assign value (next :: path) last
      return put key (.tables (items.dropLast ++ [last])) fields
    | some (.table .header _) => none
    | some (.leaf _) => none

/-- Does something at the end of a path of tables. A list of tables stands for
its last one, and tables that are missing come to be. -/
def descend (atEnd : String → Fields → Option Fields) : List String → Fields → Option Fields
  | [], _ => none
  | [key], fields => atEnd key fields
  | key :: next :: path, fields =>
    match fields.lookup key with
    | none => do
      let inner ← descend atEnd (next :: path) []
      return fields ++ [(key, .table .implied inner)]
    | some (.table origin inner) => do
      let inner ← descend atEnd (next :: path) inner
      return put key (.table origin inner) fields
    | some (.tables items) => do
      let last ← items.getLast?
      let last ← descend atEnd (next :: path) last
      return put key (.tables (items.dropLast ++ [last])) fields
    | some (.leaf _) => none

/-- Opens a table. -/
def openTable : List String → Fields → Option Fields :=
  descend fun key fields =>
    match fields.lookup key with
    | none => some (fields ++ [(key, .table .header [])])
    | some (.table .implied inner) => some (put key (.table .header inner) fields)
    | some _ => none

/-- Adds an empty table to a list of tables. -/
def addTable : List String → Fields → Option Fields :=
  descend fun key fields =>
    match fields.lookup key with
    | none => some (fields ++ [(key, .tables [[]])])
    | some (.tables items) => some (put key (.tables (items ++ [[]])) fields)
    | some _ => none

/-- Gives a value to a key of the table that a path leads to. -/
def assignIn (place : List String) (path : List String) (value : Value) (fields : Fields) : Option Fields :=
  if place.isEmpty then assign value path fields
  else
    descend (fun key fields =>
      match fields.lookup key with
      | some (.table origin inner) => do
        let inner ← assign value path inner
        return put key (.table origin inner) fields
      | some (.tables items) => do
        let last ← items.getLast?
        let last ← assign value path last
        return put key (.tables (items.dropLast ++ [last])) fields
      | _ => none) place fields

/-- Follows statements; `place` leads to the table that was opened last. -/
def follow : List Statement → (place : List String) → Fields → Option Fields
  | [], _, fields => some fields
  | .assign path value :: rest, place, fields => do
    let fields ← assignIn place path value fields
    follow rest place fields
  | .openTable path :: rest, _, fields => do
    let fields ← openTable path fields
    follow rest path fields
  | .addTable path :: rest, _, fields => do
    let fields ← addTable path fields
    follow rest path fields

end Fields

mutual

/-- What a key stands for in the end. -/
def Node.toValue : Node → Value
  | .leaf value => value
  | .table _ fields => .table (fieldValues fields)
  | .tables items => .array (tableValues items)

/-- Fields with their values. -/
def fieldValues : List (String × Node) → List (String × Value)
  | [] => []
  | (key, node) :: rest => (key, node.toValue) :: fieldValues rest

/-- Tables as values. -/
def tableValues : List (List (String × Node)) → List Value
  | [] => []
  | fields :: rest => .table (fieldValues fields) :: tableValues rest

end

/-- The table that statements describe. -/
def build? (statements : List Statement) : Option (List (String × Value)) :=
  (Fields.follow statements [] []).map fieldValues

/-- The table that assignments to dotted keys describe. -/
def inline? (pairs : List (List String × Value)) : Option (List (String × Value)) :=
  build? (pairs.map fun (path, value) => .assign path value)

end IrExcerpt.Toml
