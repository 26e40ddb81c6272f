import RequestGate.Rule.Basic
import RequestGate.Verb

/-!
# Tables of rules

A rule table holds an entry for every declared operation, that is, for a route and a method: its
rules, or the note that the operation declares no parameters.  Entries stand in ascending order of
route, and of method within a route, each operation once.

`lookup?` gives the rules to apply; an operation whose rules are empty has none.
-/

namespace RequestGate

/-- The rules of one operation; `none` when it declares no parameters. -/
structure RuleEntry where
  route : String
  verb : Verb
  rules : Option LocationRules

/-- Rules by route and method. -/
structure RuleTable where
  entries : List RuleEntry

namespace RuleEntry

/-- Whether an entry is for this operation. -/
def isFor (route : String) (verb : Verb) (entry : RuleEntry) : Bool :=
  entry.route = route && entry.verb = verb

/-- Whether an operation stands before an entry. -/
def isAfter (route : String) (verb : Verb) (entry : RuleEntry) : Bool :=
  route < entry.route || (route = entry.route && verb.rank < entry.verb.rank)

end RuleEntry

namespace RuleTable

/-- The table without entries. -/
def empty : RuleTable :=
  ⟨[]⟩

/-- The entries with one more, which replaces an entry for the same operation. -/
def insertEntry (added : RuleEntry) : List RuleEntry → List RuleEntry
  | [] => [added]
  | entry :: rest =>
    if entry.isFor added.route added.verb then added :: rest
    else if entry.isAfter added.route added.verb then added :: entry :: rest
    else entry :: insertEntry added rest

/-- The table with the rules of an operation set. -/
def insert (table : RuleTable) (route : String) (verb : Verb) (rules : Option LocationRules) :
    RuleTable :=
  ⟨insertEntry ⟨route, verb, rules⟩ table.entries⟩

/-- The rules recorded for an operation, if it is declared. -/
def recorded? (table : RuleTable) (route : String) (verb : Verb) : Option (Option LocationRules) :=
  (table.entries.find? (RuleEntry.isFor route verb)).map RuleEntry.rules

/-- The rules to apply to requests for an operation. -/
def lookup? (table : RuleTable) (route : String) (verb : Verb) : Option LocationRules :=
  (table.recorded? route verb).join.filter fun rules => !rules.isEmpty

/-- The routes that have an operation, in ascending order. -/
def routes (table : RuleTable) : List String :=
  (table.entries.map RuleEntry.route).eraseDups

/-- The table as an object: by route, then by method, the rules or `null`. -/
def toJson (table : RuleTable) : Json :=
  .object (table.routes.map fun route =>
    (route, .object ((table.entries.filter (·.route = route)).map fun entry =>
      (entry.verb.name, (entry.rules.map LocationRules.toJson).getD .null))))

end RuleTable
end RequestGate
