import RequestGate.Fields
import RequestGate.Numeral

/-!
# JSON values

A number is an integer of the signed or unsigned 64-bit range or a double precision number; the two
kinds are never equal to each other.  An object lists its members in order, each name once.

`same` compares values: integers and texts exactly, doubles by value (so the two zeros are the
same), arrays in order, and objects without regard to the order of their members.
-/

namespace RequestGate

/-- A JSON number. -/
inductive Number where
  | integer (i : Int)
  | double (x : Binary64)
  deriving DecidableEq

/-- A JSON value. -/
inductive Json where
  | null
  | bool (b : Bool)
  | number (n : Number)
  | string (s : String)
  | array (items : List Json)
  | object (members : List (String × Json))

namespace Number

/-- Integers with at most 64 bits: signed ones, and unsigned ones. -/
def InRange (i : Int) : Prop :=
  -(Nat.pow 2 63) ≤ i ∧ i < Nat.pow 2 64

instance (i : Int) : Decidable (InRange i) :=
  inferInstanceAs (Decidable (_ ∧ _))

/-- The number as a double: an integer is rounded to the nearest one. -/
def toBinary64? : Number → Option Binary64
  | integer i => Binary64.ofInt i
  | double x => some x

/-- Numbers of the same kind and value. -/
def same : Number → Number → Bool
  | integer i, integer j => i == j
  | double x, double y => x.sameValue y
  | _, _ => false

end Number

namespace Json

/-- An integer as a JSON value. -/
def ofInt (i : Int) : Json :=
  .number (.integer i)

/-- A list of texts as a JSON value. -/
def ofStrings (texts : List String) : Json :=
  .array (texts.map .string)

/-- The text that a value is. -/
def asString? : Json → Option String
  | string s => some s
  | _ => none

/-- The truth value that a value is. -/
def asBool? : Json → Option Bool
  | bool b => some b
  | _ => none

/-- The items of an array. -/
def asArray? : Json → Option (List Json)
  | array items => some items
  | _ => none

/-- The members of an object. -/
def asObject? : Json → Option (Fields Json)
  | object members => some members
  | _ => none

/-- A number as a double. -/
def asBinary64? : Json → Option Binary64
  | number n => n.toBinary64?
  | _ => none

/-- Whether a value is an object. -/
def isObject (value : Json) : Bool :=
  value.asObject?.isSome

mutual

/-- Whether two values are the same. -/
def same : Json → Json → Bool
  | null, null => true
  | bool a, bool b => a == b
  | number a, number b => a.same b
  | string a, string b => a == b
  | array a, array b => sameItems a b
  | object a, object b => a.length == b.length && sameMembers a b
  | _, _ => false

/-- Whether two arrays have the same items in the same order. -/
def sameItems : List Json → List Json → Bool
  | [], [] => true
  | a :: as, b :: bs => same a b && sameItems as bs
  | _, _ => false

/-- Whether every member has a member of the same name and value in another object. -/
def sameMembers : List (String × Json) → Fields Json → Bool
  | [], _ => true
  | (name, a) :: rest, other =>
    (match Fields.get? name other with
      | some b => same a b
      | none => false) && sameMembers rest other

end

end Json
end RequestGate
