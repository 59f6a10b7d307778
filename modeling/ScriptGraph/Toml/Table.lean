/-!
# TOML tables

A document defines its tables piece by piece: by headers, by the path of a
header, or by dotted keys. Which pieces may follow which is decided here.
-/

namespace ScriptGraph.Toml

inductive Value where
  | string (text : String)
  | integer (value : Int)
  | float
  | boolean (value : Bool)
  | moment
  | array (items : List Value)
  | table (fields : List (String × Value))
  deriving Inhabited

inductive Origin where
  /-- By a header of its own. -/
  | header
  /-- By the path of a header. -/
  | path
  /-- By a dotted key. -/
  | dotted
  deriving DecidableEq, Repr, Inhabited

inductive Node where
  | value (value : Value)
  | table (origin : Origin) (fields : List (String × Node))
  /-- An array of tables, the last one first. -/
  | tables (items : List (List (String × Node)))
  deriving Inhabited

abbrev Fields := List (String × Node)

namespace Fields

def get? (fields : Fields) (key : String) : Option Node := fields.lookup key

def add (fields : Fields) (key : String) (node : Node) : Fields := fields ++ [(key, node)]

def replace (fields : Fields) (key : String) (node : Node) : Fields :=
  fields.map fun (name, old) => if name == key then (name, node) else (name, old)

/-- Defines a value by a dotted key. The table in which the last part is defined has to be the one
that the key starts from, or one that is defined by dotted keys only. -/
def define (value : Value) : List String → Bool → Fields → Option Fields
  | [], _, _ => none
  | [key], isFit, fields =>
    if isFit && (fields.get? key).isNone then some (fields.add key (.value value)) else none
  | key :: rest, _, fields =>
    match fields.get? key with
    | none => (define value rest true []).map fun inner => fields.add key (.table .dotted inner)
    | some (.table .header _) => none
    | some (.table origin inner) =>
      (define value rest (origin == .dotted) inner).map fun inner =>
        fields.replace key (.table origin inner)
    | some (.tables (last :: before)) =>
      (define value rest false last).map fun last => fields.replace key (.tables (last :: before))
    | some _ => none

/-- Changes the table that the path of a header leads to; tables on the way are made where there
are none. -/
def descend (change : Fields → String → Option Fields) : List String → Fields → Option Fields
  | [], _ => none
  | [key], fields => change fields key
  | key :: rest, fields =>
    match fields.get? key with
    | none => (descend change rest []).map fun inner => fields.add key (.table .path inner)
    | some (.table origin inner) =>
      (descend change rest inner).map fun inner => fields.replace key (.table origin inner)
    | some (.tables (last :: before)) =>
      (descend change rest last).map fun last => fields.replace key (.tables (last :: before))
    | some _ => none

def openTable : List String → Fields → Option Fields :=
  descend fun fields key =>
    match fields.get? key with
    | none => some (fields.add key (.table .header []))
    | some (.table .path inner) => some (fields.replace key (.table .header inner))
    | some _ => none

def openItem : List String → Fields → Option Fields :=
  descend fun fields key =>
    match fields.get? key with
    | none => some (fields.add key (.tables [[]]))
    | some (.tables items) => some (fields.replace key (.tables ([] :: items)))
    | some _ => none

def within (change : Fields → Option Fields) : List String → Fields → Option Fields
  | [], fields => change fields
  | key :: rest, fields =>
    match fields.get? key with
    | some (.table origin inner) =>
      (within change rest inner).map fun inner => fields.replace key (.table origin inner)
    | some (.tables (last :: before)) =>
      (within change rest last).map fun last => fields.replace key (.tables (last :: before))
    | _ => none

end Fields

mutual

def Node.toValue : Node → Value
  | .value value => value
  | .table _ fields => .table (fieldValues fields)
  | .tables items => .array (tableValues items).reverse

def fieldValues : List (String × Node) → List (String × Value)
  | [] => []
  | (key, node) :: rest => (key, node.toValue) :: fieldValues rest

def tableValues : List (List (String × Node)) → List Value
  | [] => []
  | fields :: rest => .table (fieldValues fields) :: tableValues rest

end

end ScriptGraph.Toml
