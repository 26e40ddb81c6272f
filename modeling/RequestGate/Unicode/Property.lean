import RequestGate.Unicode.CategoryTable
import RequestGate.Unicode.PropertyTable
import RequestGate.Unicode.Ranges
import RequestGate.Unicode.ScriptTable

/-!
# Names of character sets

A set of characters is named by a property that a character has or has not, by a general category, or
by a script.  Names are compared loosely: case, blanks, hyphens, underscores and a leading `is` do
not count.
-/

namespace RequestGate
namespace Unicode

/-- A named set of characters. -/
inductive NamedSet where
  | ranges (ranges : Ranges)
  /-- All characters outside the ranges. -/
  | outside (ranges : Ranges)

/-- Whether a code point belongs to a named set. -/
def NamedSet.contains (code : Nat) : NamedSet → Bool
  | ranges r => r.contains code
  | outside r => !r.contains code

/-- Letters in lower case, without blanks, hyphens, underscores and characters outside ASCII. -/
def looseChars (name : List Char) : List Char :=
  (name.filter fun c => !(c = ' ' || c = '_' || c = '-' || 0x80 ≤ c.toNat)).map Char.toLower

/-- A name as it is compared. -/
def looseName (name : String) : String :=
  match name.toList with
  | a :: b :: rest =>
    if a.toLower = 'i' ∧ b.toLower = 's' then
      let loose := looseChars rest
      String.ofList (if loose = ['c'] then ['i', 's', 'c'] else loose)
    else String.ofList (looseChars (a :: b :: rest))
  | short => String.ofList (looseChars short)

/-- The entry of a table under a name. -/
def tableRanges? (table : List (List String × List String)) (name : String) : Option Ranges :=
  (table.find? fun entry => entry.1.contains name).map fun entry => Ranges.ofLines entry.2

/-- Ranges of two sets in ascending order. -/
def unionRanges (a b : Ranges) : Ranges :=
  a.merge b fun x y => x.1 ≤ y.1

/-- The characters of all categories that a test on their two-letter names selects. -/
def categories (select : String → Bool) : Ranges :=
  (categoryTable.filter fun entry => entry.1.head?.any select).foldl
    (fun ranges entry => unionRanges ranges (Ranges.ofLines entry.2)) []

/-- The names of groups of categories, and the letters with which the categories start. -/
def categoryGroups : List (List String × String) :=
  [(["l", "letter"], "l"), (["m", "mark", "combiningmark"], "m"), (["n", "number"], "n"),
    (["p", "punctuation", "punct"], "p"), (["s", "symbol"], "s"), (["z", "separator"], "z")]

/-- The characters of a general category or of a group of them. -/
def category? (name : String) : Option NamedSet :=
  if name = "any" then some (.outside [])
  else if name = "ascii" then some (.ranges [(0, 0x7F)])
  else if name = "assigned" then some (.ranges (categories fun _ => true))
  else if name = "cn" || name = "unassigned" then some (.outside (categories fun _ => true))
  else if name = "c" || name = "other" then
    some (.outside (categories fun category => category.toList.head? ≠ some 'c'))
  else if name = "lc" || name = "casedletter" then
    some (.ranges (categories fun category => ["lu", "ll", "lt"].contains category))
  else
    match categoryGroups.find? fun group => group.1.contains name with
    | some (_, letter) =>
      some (.ranges (categories fun category => category.toList.head? = letter.toList.head?))
    | none => (tableRanges? categoryTable name).map .ranges

/-- The characters of a script. -/
def script? (name : String) : Option NamedSet :=
  (tableRanges? scriptTable name).map .ranges

/-- The set with a single name. -/
def named? (name : String) : Option NamedSet :=
  let name := looseName name
  let property := if ["cf", "sc", "lc"].contains name then none else tableRanges? propertyTable name
  match property with
  | some ranges => some (.ranges ranges)
  | none => (category? name).or (script? name)

/-- The set of the characters for which a property has a value. -/
def valued? (property value : String) : Option NamedSet :=
  let property := looseName property
  if ["gc", "generalcategory", "category"].contains property then category? (looseName value)
  else if ["sc", "script", "scx", "scriptextensions"].contains property then
    script? (looseName value)
  else none

/-- The characters of words: alphabetic characters, marks, digits, connectors and joiners. -/
def wordRanges : Ranges :=
  let property (name : String) : Ranges := (tableRanges? propertyTable name).getD []
  unionRanges (unionRanges (property "alphabetic") (property "joincontrol"))
    (categories fun category => ["mn", "mc", "me", "nd", "pc"].contains category)

end Unicode
end RequestGate
