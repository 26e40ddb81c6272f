import RequestGate.Json.Pointer
import RequestGate.Text.Percent

/-!
# References

An object with a text under `$ref` is a reference: it stands for the value its text points at, and
its other members are not looked at.  `expand` replaces every reference by the expansion of its
target.  A reference whose text is being expanded already is left as it stands, so a circle of
references ends where it closes.

Expansion takes turns: a turn walks one value down to its references and each of them starts the
next turn with one more text in the list of those being expanded.  A list without repetition holds
at most the texts of the document, which bounds the turns.
-/

namespace RequestGate
namespace Reference

/-- Why a reference has no target. -/
inductive Fault where
  /-- The text does not start with `#`. -/
  | remote (text : String)
  /-- The pointer leads nowhere. -/
  | unresolved (text : String)
  deriving DecidableEq

/-- The member that makes an object a reference. -/
def key : String := "$ref"

/-- The text of the reference that an object is. -/
def text? (members : Fields Json) : Option String :=
  (Fields.get? key members).bind Json.asString?

/-- The value that a reference points at: after `#` stands a percent-encoded pointer. -/
def target (root : Json) (text : String) : Except Fault Json :=
  match text.toList with
  | '#' :: fragment =>
    match root.pointer? (Percent.decodeText (String.ofList fragment)) with
    | some value => .ok value
    | none => .error (.unresolved text)
  | _ => .error (.remote text)

mutual

/-- The texts of all references in a value. -/
def texts : Json → List String
  | .array items => itemTexts items
  | .object members => (text? members).toList ++ memberTexts members
  | _ => []

/-- The texts of all references in items. -/
def itemTexts : List Json → List String
  | [] => []
  | item :: rest => texts item ++ itemTexts rest

/-- The texts of all references in members. -/
def memberTexts : List (String × Json) → List String
  | [] => []
  | (_, value) :: rest => texts value ++ memberTexts rest

end

mutual

/-- A value with every outermost reference replaced; `replace` is given the reference's members and
its text. -/
def walk (replace : Fields Json → String → Except Fault Json) : Json → Except Fault Json
  | .array items => (walkItems replace items).map .array
  | .object members =>
    match text? members with
    | some text => replace members text
    | none => (walkMembers replace members).map .object
  | value => .ok value

/-- Items with every outermost reference replaced. -/
def walkItems (replace : Fields Json → String → Except Fault Json) :
    List Json → Except Fault (List Json)
  | [] => .ok []
  | item :: rest => do
    let item ← walk replace item
    let rest ← walkItems replace rest
    return item :: rest

/-- Members with every outermost reference replaced. -/
def walkMembers (replace : Fields Json → String → Except Fault Json) :
    List (String × Json) → Except Fault (List (String × Json))
  | [] => .ok []
  | (name, value) :: rest => do
    let value ← walk replace value
    let rest ← walkMembers replace rest
    return (name, value) :: rest

end

/-- Expands the references of a value for a number of turns; `active` lists the texts being
expanded, the latest first. -/
def expandFor (root : Json) : Nat → List String → Json → Except Fault Json
  | 0, _, value => .ok value
  | turns + 1, active, value =>
    walk (fun members text =>
      if text ∈ active then .ok (.object members)
      else (target root text).bind (expandFor root turns (text :: active))) value

/-- A document with its references expanded. -/
def expand (root : Json) : Except Fault Json :=
  expandFor root ((texts root).eraseDups.length + 1) [] root

end Reference
end RequestGate
