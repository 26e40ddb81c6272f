import RequestGate.Text.Case

/-!
# Request methods

The seven methods for which a path may declare an operation.  `Verb.all` is their fixed order.
-/

namespace RequestGate

/-- A request method for which operations are declared. -/
inductive Verb where
  | get
  | put
  | post
  | delete
  | options
  | head
  | patch
  deriving DecidableEq

namespace Verb

/-- All methods in their fixed order. -/
def all : List Verb :=
  [get, put, post, delete, options, head, patch]

/-- The name of a method in lower case. -/
def name : Verb → String
  | get => "get"
  | put => "put"
  | post => "post"
  | delete => "delete"
  | options => "options"
  | head => "head"
  | patch => "patch"

/-- The name of a method in upper case, as it stands in a request. -/
def upperName : Verb → String
  | get => "GET"
  | put => "PUT"
  | post => "POST"
  | delete => "DELETE"
  | options => "OPTIONS"
  | head => "HEAD"
  | patch => "PATCH"

/-- The place of a method in the fixed order. -/
def rank : Verb → Nat
  | get => 0
  | put => 1
  | post => 2
  | delete => 3
  | options => 4
  | head => 5
  | patch => 6

/-- The method with a name, in any case of its ASCII letters. -/
def ofName? (text : String) : Option Verb :=
  all.find? fun verb => verb.name = Case.lowerAsciiText text

theorem mem_all (verb : Verb) : verb ∈ all := by
  cases verb <;> decide

theorem rank_injective {a b : Verb} (h : a.rank = b.rank) : a = b := by
  cases a <;> cases b <;> first | rfl | (exact absurd h (by decide))

/-- What is said about a method name that is not one of the seven. -/
def unknownMessage (text : String) : String :=
  "unsupported HTTP method: " ++ text

end Verb
end RequestGate
