/-!
# TOML tables

The tree of tables and values that a document describes, and the rules for adding to it.  A table
may be opened by one header only, a key may be given one value only, and how a table came about
decides what may be added to it later.

## Main definitions

* `Node`, `Fields` — a value or a table, and the fields of a table.
* `Fields.assign` — gives a value to a dotted key.
* `Fields.openTable`, `Fields.openEntry` — what a header with one or two brackets opens.
-/

namespace HydroArchive.Toml

/-- How a table came about. -/
inductive Origin where
  /-- It has a header of its own. -/
  | header
  /-- The header of a table inside it named it. -/
  | implied
  /-- A dotted key named it. -/
  | dotted
  /-- It is written between braces, and complete. -/
  | inline
  deriving DecidableEq, Repr

/-- A value or a table.  Of values that are neither texts nor integers only the sort is kept. -/
inductive Node where
  | text (value : String)
  | integer (value : Int)
  | float
  | boolean
  | moment
  | array (items : List Node)
  | table (origin : Origin) (fields : List (String × Node))
  /-- The tables that headers with two brackets opened one after the other. -/
  | entries (tables : List (List (String × Node)))

/-- The fields of a table, in the order in which they were added. -/
abbrev Fields := List (String × Node)

namespace Fields

/-- Puts a node at a key, in place of the one that is there. -/
def put (key : String) (node : Node) : Fields → Fields
  | [] => [(key, node)]
  | field :: fields => if field.1 = key then (key, node) :: fields else field :: put key node fields

/-- Changes the last of some tables. -/
def changeLast (change : Fields → Option Fields) : List Fields → Option (List Fields)
  | [] => none
  | [last] => (change last).map fun fields => [fields]
  | first :: rest => (changeLast change rest).map (first :: ·)

/-- Gives a value to a dotted key.  The key may lead through tables that headers implied, but the
last table on its way must be one that dotted keys named. -/
def assign (value : Node) : List String → Fields → Option Fields
  | [], _ => none
  | [key], fields => if (fields.lookup key).isSome then none else some (put key value fields)
  | key :: rest, fields =>
    match fields.lookup key with
    | none => (assign value rest []).map fun inner => put key (.table .dotted inner) fields
    | some (.table .dotted inner) =>
      (assign value rest inner).map fun inner => put key (.table .dotted inner) fields
    | some (.table .implied inner) =>
      if rest.length = 1 then none
      else (assign value rest inner).map fun inner => put key (.table .implied inner) fields
    | some (.entries tables) =>
      if rest.length = 1 then none
      else
        (changeLast (assign value rest) tables).map fun tables => put key (.entries tables) fields
    | some _ => none

/-- Opens what a header names inside a table and changes it; `last` says what becomes of the last
part of the name. -/
def descend (last : String → Fields → Option Fields) : List String → Fields → Option Fields
  | [], _ => none
  | [key], fields => last key fields
  | key :: rest, fields =>
    match fields.lookup key with
    | none => (descend last rest []).map fun inner => put key (.table .implied inner) fields
    | some (.table .inline _) => none
    | some (.table origin inner) =>
      (descend last rest inner).map fun inner => put key (.table origin inner) fields
    | some (.entries tables) =>
      (changeLast (descend last rest) tables).map fun tables => put key (.entries tables) fields
    | some _ => none

/-- Opens the table of a header and fills it.  Another header may have implied it, but none may have
opened it. -/
def openTable (fill : Fields → Option Fields) : List String → Fields → Option Fields :=
  descend fun key fields =>
    match fields.lookup key with
    | none => (fill []).map fun inner => put key (.table .header inner) fields
    | some (.table .implied inner) =>
      (fill inner).map fun inner => put key (.table .header inner) fields
    | some _ => none

/-- Adds one more table to those that a header with two brackets names, and fills it. -/
def openEntry (fill : Fields → Option Fields) : List String → Fields → Option Fields :=
  descend fun key fields =>
    match fields.lookup key with
    | none => (fill []).map fun inner => put key (.entries [inner]) fields
    | some (.entries tables) =>
      (fill []).map fun inner => put key (.entries (tables ++ [inner])) fields
    | some _ => none

end Fields

end HydroArchive.Toml
