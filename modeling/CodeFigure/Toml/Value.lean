/-
  CodeFigure/Toml/Value.lean
  ==========================
  **TOML documents as values, and the rules for putting them together.**

  A document is a table.  The lines of a document add to it one after the other,
  and TOML says which additions are allowed: no key is given twice, a table has
  one header at most, and what was written as one value stays as it was written.
  To decide that, every table remembers how it came to be (`Origin`).
-/
namespace CodeFigure.Toml

/-! ### Problems -/

inductive Problem where
  | expected (what : String)
  | duplicateKey (key : String)
  | notExtensible (key : String)
  | outOfRange (what : String)
  | tooDeep
  | wrongType (key what : String)
deriving DecidableEq, Repr

def Problem.message : Problem → String
  | .expected what => "expected " ++ what
  | .duplicateKey key => "duplicate key: " ++ key
  | .notExtensible key => "cannot extend the value of " ++ key
  | .outOfRange what => what ++ " out of range"
  | .tooDeep => "values are nested too deeply"
  | .wrongType key what => key ++ " has to be " ++ what

/-! ### Values -/

/-- How a table came to be: as a step of another table's header, as a step of a
    dotted key, by a header of its own, or as one value. -/
inductive Origin where
  | implied
  | dotted
  | header
  | inline
deriving DecidableEq, Repr

/-- A value.  Floats and date-times carry nothing, since nothing asks for what
    they are.  `tables` is an array whose elements have headers. -/
inductive Value where
  | text (content : String)
  | integer (number : Int)
  | float
  | boolean (value : Bool)
  | datetime
  | array (items : List Value)
  | tables (items : List (List (String × Value)))
  | table (origin : Origin) (entries : List (String × Value))

abbrev Table := List (String × Value)

namespace Table

def replace (table : Table) (key : String) (value : Value) : Table :=
  table.map fun entry => if entry.1 = key then (key, value) else entry

abbrev Change := Origin → Table → Except Problem (Origin × Table)

/-- How a table came to be that a path leads through.  A dotted key takes over
    what was only a step of another table's header. -/
def entered (made kind : Origin) : Origin :=
  if made = .dotted ∧ kind = .implied then .dotted else kind

/-- Apply `change` to the table that `path` leads to.  Tables that are missing on
    the way are made, and marked with `made`; a path into an array of tables goes
    on in its last element.  A dotted key does not lead into a table that has a
    header, and nothing leads into a table that is one value. -/
def changeAt (made : Origin) (change : Change) : List String → Change
  | [], origin, table => change origin table
  | key :: path, origin, table =>
    match table.lookup key with
    | none => do
      let below ← changeAt made change path made []
      pure (origin, table ++ [(key, .table below.1 below.2)])
    | some (.table .inline _) => throw (.notExtensible key)
    | some (.table kind entries) => do
      if made = .dotted ∧ kind = .header then throw (.duplicateKey key)
      let below ← changeAt made change path (entered made kind) entries
      pure (origin, table.replace key (.table below.1 below.2))
    | some (.tables items) =>
      match items.getLast? with
      | none => throw (.notExtensible key)
      | some last => do
        let below ← changeAt made change path .header last
        pure (origin, table.replace key (.tables (items.dropLast ++ [below.2])))
    | some _ => throw (.notExtensible key)

/-- Give `key` its value.  A dotted key only adds to tables that dotted keys
    have made or taken over. -/
def give (isDotted : Bool) (key : String) (value : Value) : Change := fun origin table =>
  if (decide (origin = .dotted)) != isDotted then throw (.duplicateKey key)
  else if (table.lookup key).isSome then throw (.duplicateKey key)
  else pure (origin, table ++ [(key, value)])

/-- Give a key with dots in it, of which `path` are the parts before the last,
    its value. -/
def giveDotted (path : List String) (key : String) (value : Value) : Change :=
  changeAt .dotted (give (!path.isEmpty) key value) path

def openTable (key : String) : Change := fun origin table =>
  match table.lookup key with
  | none => pure (origin, table ++ [(key, .table .header [])])
  | some (.table .implied entries) => pure (origin, table.replace key (.table .header entries))
  | some _ => throw (.duplicateKey key)

def openElement (key : String) : Change := fun origin table =>
  match table.lookup key with
  | none => pure (origin, table ++ [(key, .tables [[]])])
  | some (.tables items) => pure (origin, table.replace key (.tables (items ++ [[]])))
  | some _ => throw (.duplicateKey key)

end Table

end CodeFigure.Toml
