import RequestGate.Json.Basic

/-!
# TOML values

A value of a TOML document, and tables while they are filled.  A table remembers how it came to be,
because that decides what may still be added to it: a table in braces is complete; a table that only
stands on the way to another one may be opened by a header of its own once; dotted keys add to tables
that dotted keys made.

`Table.openHeader`, `Table.openItem` and `Table.insert` are the three ways in which a document adds
something.  Each fails when it would define something twice.
-/

namespace RequestGate
namespace Toml

/-- How a table came to be. -/
inductive Origin where
  /-- It is written in braces. -/
  | braces
  | header
  /-- It stands on the way to the table of a header. -/
  | passage
  /-- It stands on the way to the value of a dotted key. -/
  | dotted
  deriving DecidableEq

/-- A value. -/
inductive Value where
  | text (s : String)
  | integer (i : Int)
  /-- A floating-point number; infinities and values that are no number are absent. -/
  | float (x : Option Binary64)
  | boolean (b : Bool)
  /-- A date, a time, or both. -/
  | instant (text : String)
  | array (items : List Value)
  | table (origin : Origin) (entries : List (String × Value))
  /-- An array whose items are tables with headers of their own. -/
  | tables (items : List (List (String × Value)))

/-- The values of a table by name. -/
abbrev Table := Fields Value

namespace Table

/-- A table with its last item changed. -/
def changeLast (change : Table → Option Table) (items : List Table) : Option (List Table) :=
  match items.reverse with
  | [] => none
  | last :: before => (change last).map fun last => (last :: before).reverse

/-- A table with the entry of a name changed, where the change is told what stands there. -/
def change (name : String) (f : Option Value → Option Value) (table : Table) : Option Table :=
  (f (Fields.get? name table)).map fun value => Fields.insert name value table

/-- A table with a change made in the table that headers lead to by names. -/
def atPath (f : Table → Option Table) : List String → Table → Option Table
  | [], table => f table
  | name :: path, table =>
    change name (fun
      | none => (atPath f path []).map (.table .passage)
      | some (.table .braces _) => none
      | some (.table origin entries) => (atPath f path entries).map (.table origin)
      | some (.tables items) => (changeLast (atPath f path) items).map .tables
      | some _ => none) table

/-- A table with the table of a header opened. -/
def openHeader (path : List String) (name : String) : Table → Option Table :=
  atPath (change name fun
    | none => some (.table .header [])
    | some (.table .passage entries) => some (.table .header entries)
    | some _ => none) path

/-- A table with an item of an array of tables opened. -/
def openItem (path : List String) (name : String) : Table → Option Table :=
  atPath (change name fun
    | none => some (.tables [[]])
    | some (.tables items) => some (.tables (items ++ [[]]))
    | some _ => none) path

/-- A table with a value added under a dotted key.  The table that takes the value is this one, or one
that dotted keys made. -/
def insert (value : Value) : List String → String → Table → Option Table
  | [], name, table =>
    change name (fun
      | none => some value
      | some _ => none) table
  | step :: path, name, table =>
    change step (fun
      | none => (insert value path name []).map (.table .dotted)
      | some (.table .dotted entries) => (insert value path name entries).map (.table .dotted)
      | some (.table .passage entries) =>
        if path = [] then none else (insert value path name entries).map (.table .passage)
      | some (.tables items) =>
        if path = [] then none else (changeLast (insert value path name) items).map .tables
      | some _ => none) table

end Table

namespace Value

mutual

/-- A value as JSON.  A date or time is an object that holds its text under a name of its own, and a
number that JSON does not have is `null`. -/
def toJson : Value → Json
  | text s => .string s
  | integer i => .ofInt i
  | float x => (x.map fun x => Json.number (.double x)).getD .null
  | boolean b => .bool b
  | instant s => .object [("$__toml_private_datetime", .string s)]
  | array items => .array (itemsJson items)
  | table _ entries => .object (entriesJson entries)
  | tables items => .array (tablesJson items)

/-- Items as JSON. -/
def itemsJson : List Value → List Json
  | [] => []
  | item :: rest => toJson item :: itemsJson rest

/-- Entries as members of an object. -/
def entriesJson : List (String × Value) → List (String × Json)
  | [] => []
  | (name, value) :: rest => (name, toJson value) :: entriesJson rest

/-- Tables as JSON. -/
def tablesJson : List (List (String × Value)) → List Json
  | [] => []
  | entries :: rest => .object (entriesJson entries) :: tablesJson rest

end

end Value
end Toml
end RequestGate
