import RequestGate.Json.Printer
import RequestGate.Pattern.Reader
import RequestGate.Text.Blank
import RequestGate.Url.Basic
import RequestGate.Validation.Coercion
import RequestGate.Validation.Failure
import RequestGate.Validation.Format

/-!
# Checking values against rules

A checker decides whether the fields of a bag satisfy their rules.  A field without a value, or with
`null`, fails only when it is required; any other value is checked by the kind of the rule.  A checker
that converts takes numerals and truth values written as texts for what they denote, and numbers and
truth values for their text.

A checker keeps the patterns it has read.  `prepare` vets rules before they are used: it refuses
unknown kinds, enumerations without values and texts that are no pattern, and it keeps the patterns
read up to the first fault.

What a reader of patterns says about a text that is none depends on that text only and is left out: a
message about it ends after `bad format pattern: `.
-/

namespace RequestGate

/-- The kinds of values. -/
inductive Kind where
  | integer
  | number
  | string
  | boolean
  | array
  | object
  | enumeration
  | email
  | url
  | date
  | dateTime
  | id
  | file
  deriving DecidableEq

/-- The kind with a name. -/
def Kind.ofName? (name : String) : Option Kind :=
  match name with
  | "int" | "integer" => some integer
  | "number" => some number
  | "string" => some string
  | "bool" | "boolean" => some boolean
  | "array" => some array
  | "object" => some object
  | "enum" => some enumeration
  | "email" => some email
  | "url" => some url
  | "date" => some date
  | "dateTime" | "date-time" | "datetime" => some dateTime
  | "id" => some id
  | "file" => some file
  | _ => none

/-- A checker: whether it converts texts, and the patterns it has read. -/
structure Checker where
  convert : Bool
  patterns : Fields Pattern

/-- What a check gives: nothing, or what is wrong. -/
abbrev Check := Except String Unit

namespace Checker

/-- A checker that has read no patterns. -/
def fresh (convert : Bool) : Checker :=
  ⟨convert, []⟩

/-- Succeeds when a condition holds. -/
def ensure (condition : Bool) (message : String) : Check :=
  if condition then .ok () else .error message

/-- An option as a text. -/
def textOption? (rule : Rule) (key : String) : Option String :=
  (rule.option? key).bind Json.asString?

/-- Checks a number against the bounds of a rule. -/
def checkBounds (rule : Rule) (x : Binary64) (subject : String) : Check := do
  match (rule.option? "min").bind Json.asBinary64? with
  | some least =>
    if x.lt least then throw (subject ++ " at least " ++ Numeral.Layout.message.write least)
  | none => pure ()
  match (rule.option? "max").bind Json.asBinary64? with
  | some most =>
    if most.lt x then throw (subject ++ " at most " ++ Numeral.Layout.message.write most)
  | none => pure ()

/-- Checks a length against the bounds of a rule. -/
def checkLength (rule : Rule) (length : Nat) : Check :=
  match Binary64.ofInt length with
  | some x => checkBounds rule x "length should be"
  | none => .ok ()

/-- The number that a value is or, when the checker converts, is the text of. -/
def number? (checker : Checker) : Json → Option Binary64
  | .number n => n.toBinary64?
  | .string text => if checker.convert then Numeral.readFree? (Blank.trim text).toList else none
  | _ => none

/-- The text that a value is or, when the checker converts, has. -/
def text? (checker : Checker) : Json → Option String
  | .string text => some text
  | .number n => if checker.convert then some (Json.numberText n) else none
  | .bool b => if checker.convert then some (Json.compact (.bool b)) else none
  | _ => none

/-- The pattern of a text, from those read already where it is among them. -/
def pattern? (checker : Checker) (text : String) : Option Pattern :=
  (Fields.get? text checker.patterns).or (Pattern.ofText? text)

/-- Checks a text against the pattern of a rule.  The message for a text that is no pattern leaves out
what is wrong with it. -/
def checkPattern (checker : Checker) (rule : Rule) (text : String) : Check :=
  match textOption? rule "format" with
  | none => .ok ()
  | some format =>
    match checker.pattern? format with
    | none => .error "bad format pattern: "
    | some pattern => ensure (pattern.isMatch text) ("should match " ++ format)

/-- Checks a value that should be a text. -/
def checkString (checker : Checker) (rule : Rule) (value : Json) : Check :=
  match checker.text? value with
  | none => .error "should be a string"
  | some text =>
    if text = "" then
      ensure ((rule.option? "allowEmpty").bind Json.asBool? == some true) "should not be empty"
    else do
      checkLength rule text.length
      checkPattern checker rule text

/-- Checks a text against a fixed pattern. -/
def checkFormat (pattern : Pattern) (message : String) (value : Json) : Check :=
  ensure (value.asString?.any pattern.isMatch) message

/-- Checks a value against the values of an enumeration. -/
def checkEnumeration (rule : Rule) (value : Json) : Check :=
  match (rule.option? "values").bind Json.asArray? with
  | none => .error "enum rule has no `values`"
  | some values =>
    ensure (values.any value.same) ("should be one of " ++ Json.compact (.array values))

/-- Whether a value is a truth value or, when the checker converts, the text of one. -/
def isBoolean (checker : Checker) : Json → Bool
  | .bool _ => true
  | .string text => checker.convert && (text = "true" || text = "false")
  | _ => false

/-- The rule for the items of an array: their kind, and the options that apply to items. -/
def itemRule (rule : Rule) (kind : String) : Rule :=
  ⟨some kind, true, ["values", "format", "allowEmpty"].filterMap fun key =>
    (rule.option? key).map (key, ·)⟩

/-- Checks the items of an array in order, the first of them at a position. -/
def checkItems (check : Json → Check) (position : Nat) : List Json → Check
  | [] => .ok ()
  | item :: rest =>
    match check item with
    | .error message => .error ("item " ++ toString position ++ ": " ++ message)
    | .ok () => checkItems check (position + 1) rest

/-- Checks a value by the kind of its rule; `checkItem` checks the items of an array. -/
def checkKind (checker : Checker) (rule : Rule) (checkItem : Rule → Json → Check) (value : Json) :
    Kind → Check
  | .integer =>
    match (checker.number? value).filter fun x => x.toInt?.isSome with
    | some x => checkBounds rule x "should be"
    | none => .error "should be an integer"
  | .number =>
    match checker.number? value with
    | some x => checkBounds rule x "should be"
    | none => .error "should be a number"
  | .string => checkString checker rule value
  | .boolean => ensure (checker.isBoolean value) "should be a boolean"
  | .array =>
    match value.asArray? with
    | none => .error "should be an array"
    | some items => do
      checkLength rule items.length
      match textOption? rule "itemType" with
      | some kind => checkItems (checkItem (itemRule rule kind)) 0 items
      | none => .ok ()
  | .object => ensure value.isObject "should be an object"
  | .enumeration => checkEnumeration rule value
  | .email => checkFormat Format.email "should be an email" value
  | .url => ensure (value.asString?.any Url.isWeb) "should be a url"
  | .date => checkFormat Format.date "should be a date (YYYY-MM-DD)" value
  | .dateTime => checkFormat Format.dateTime "should be a date-time" value
  | .id => checkFormat Format.id "should be an id" value
  | .file => .ok ()

/-- Checks a value with a rule whose kind is looked up. -/
def checkWith (checker : Checker) (checkItem : Rule → Json → Check) (rule : Rule) (value : Json) :
    Check :=
  match rule.kind with
  | none => .ok ()
  | some name =>
    match Kind.ofName? name with
    | none => .error ("unsupported rule type `" ++ name ++ "`")
    | some kind => checkKind checker rule checkItem value kind

/-- Checks an item of an array.  The rule of an item names no kind for items of its own, so nothing is
asked of them. -/
def checkItem (checker : Checker) (rule : Rule) (value : Json) : Check :=
  checkWith checker (fun _ _ => .ok ()) rule value

/-- Checks a value against a rule. -/
def check (checker : Checker) (rule : Rule) (value : Json) : Check :=
  checkWith checker checker.checkItem rule value

/-- The failure of one field, if it fails. -/
def fieldError? (checker : Checker) (data : Bag) (entry : String × Rule) : Option FieldError :=
  match Fields.get? entry.1 data with
  | none | some .null => if entry.2.required then some (.missing entry.1) else none
  | some value =>
    match checker.check entry.2 value with
    | .ok () => none
    | .error message => some (.invalid entry.1 message)

/-- Validates a bag and reports every field that fails. -/
def validate (checker : Checker) (rules : FieldRules) (data : Bag) : Except InvalidParams Unit :=
  match rules.filterMap (checker.fieldError? data) with
  | [] => .ok ()
  | errors => .error ⟨errors⟩

/-! ## Preparation -/

/-- What is wrong with a kind that a rule names. -/
def kindFault? (rule : Rule) (name : String) : Option String :=
  match Kind.ofName? name with
  | none => some ("unsupported rule type `" ++ name ++ "`")
  | some kind =>
    if kind = .enumeration && ((rule.option? "values").bind Json.asArray?).isNone then
      some "enum rule needs a `values` array"
    else none

/-- The names of kinds in a rule: its own and that of its items. -/
def kindNames (rule : Rule) : List String :=
  rule.kind.toList ++ (textOption? rule "itemType").toList

/-- Vets one rule: the checker that has read its pattern, and what is wrong with the rule, leaving out
what is wrong with a text that is no pattern. -/
def prepareRule (checker : Checker) (entry : String × Rule) : Checker × Option String :=
  let (field, rule) := entry
  let fault (reason : String) : String := "field `" ++ field ++ "`: " ++ reason
  match (kindNames rule).findSome? (kindFault? rule) with
  | some reason => (checker, some (fault reason))
  | none =>
    match textOption? rule "format" with
    | none => (checker, none)
    | some format =>
      if Fields.contains format checker.patterns then (checker, none)
      else
        match Pattern.ofText? format with
        | some pattern =>
          ({ checker with patterns := checker.patterns.insert format pattern }, none)
        | none => (checker, some (fault "bad format pattern: "))

/-- Vets rules one after another up to the first that is refused. -/
def prepare (checker : Checker) : FieldRules → Checker × Option String
  | [] => (checker, none)
  | entry :: rest =>
    match checker.prepareRule entry with
    | (checker, some reason) => (checker, some reason)
    | (checker, none) => prepare checker rest

end Checker
end RequestGate
