/-!
Values of a configuration file.
-/
namespace SliceGrowth.Toml

inductive Value where
  | text (s : String)
  | integer (n : Int)
  | boolean (b : Bool)
  /-- A number with a fraction or an exponent; no setting reads one. -/
  | float
  /-- A date, a time or both; no setting reads one. -/
  | moment
  | nothing
  | array (items : List Value)
  | table (entries : List (String × Value))

abbrev Table := List (String × Value)

def Value.isContainer : Value → Bool
  | array _ => true
  | table _ => true
  | _ => false

namespace Table

/-- The table with `key` bound to `value`, in place of what the key was bound to. -/
def bind (key : String) (value : Value) : Table → Table
  | [] => [(key, value)]
  | (other, v) :: rest => if other == key then (key, value) :: rest else (other, v) :: bind key value rest

/-- Binds a new key; none if it is bound already. -/
def add? (key : String) (value : Value) (table : Table) : Option Table :=
  if (table.lookup key).isSome then none else some (table ++ [(key, value)])

/-- Changes the table that a path of keys leads to; tables on the way are made. An array on the way
stands for its last item, where arrays may be entered at all. None if a key leads to anything else. -/
def change? (enterArrays : Bool) : List String → (Table → Option Table) → Table → Option Table
  | [], change, table => change table
  | key :: keys, change, table =>
    match table.lookup key with
    | none => (change? enterArrays keys change []).map fun inner => table ++ [(key, .table inner)]
    | some (.table inner) =>
      (change? enterArrays keys change inner).map fun inner => bind key (.table inner) table
    | some (.array items) =>
      match enterArrays, items.getLast? with
      | true, some (.table inner) =>
        (change? enterArrays keys change inner).map fun inner =>
          bind key (.array (items.dropLast ++ [.table inner])) table
      | _, _ => none
    | some _ => none

end Table

end SliceGrowth.Toml
