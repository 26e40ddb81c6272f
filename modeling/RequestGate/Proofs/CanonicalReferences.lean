import RequestGate.Proofs.PathBuilding
import RequestGate.Proofs.ReferenceFaults

/-!
# Canonical references

A part of a document is reached by steps: the keys of objects and the positions of arrays.  Its pointer
has a slash before every step, `~0` for a tilde and `~1` for a slash within a key, and plain decimal for
a position.  The reference to it is `#` and the pointer, written with percent escapes.  Reading undoes
both layers, the escapes first, so the reference leads to the part whatever its keys are.

Main results:

- Theorem `Json.Pointer.unescape_escape`: a key is read back from what is written for it.
- Theorem `Json.Pointer.index?_toString`: a position is read back from its decimal digits.
- Theorem `Json.pointer?_text`: a pointer leads where its steps lead.
- Theorem `Reference.findsTargets`: canonical references find their targets, and which references are
  remote.
-/

namespace RequestGate
namespace Json

/-! ## Steps -/

/-- A step from a value to a part of it. -/
inductive Step where
  | key (name : String)
  | item (position : Nat)

/-- Steps lead from a value to a part of it: by the keys of objects and the positions of arrays. -/
inductive Leads : List Step → Json → Json → Prop
  | nil (value : Json) : Leads [] value value
  | key {members : Fields Json} {name : String} {child : Json}
    (hchild : Fields.get? name members = some child) {steps : List Step} {value : Json}
    (hrest : Leads steps child value) : Leads (.key name :: steps) (.object members) value
  | item {items : List Json} {position : Nat} {child : Json}
    (hchild : items[position]? = some child) {steps : List Step} {value : Json}
    (hrest : Leads steps child value) : Leads (.item position :: steps) (.array items) value

/-- A step as the key of a pointer: a position in plain decimal. -/
def Step.text : Step → String
  | key name => name
  | item position => toString position

namespace Pointer

/-! ## Keys -/

/-- What is written for a character of a key. -/
def escapeChar (c : Char) : List Char :=
  if c = '~' then ['~', '0'] else if c = '/' then ['~', '1'] else [c]

/-- What is written for a key. -/
def escape (key : String) : List Char :=
  key.toList.flatMap escapeChar

theorem slash_notMem_escape (key : String) : '/' ∉ escape key := by
  intro h
  obtain ⟨c, _, hc⟩ := List.mem_flatMap.1 h
  unfold escapeChar at hc
  split at hc
  case isTrue => exact absurd hc (by decide)
  case isFalse =>
    split at hc
    case isTrue => exact absurd hc (by decide)
    case isFalse hslash => exact hslash (List.mem_singleton.1 hc).symm

/-- A character that does not start the pair is kept. -/
theorem replacePair_cons_of_ne {c first : Char} (h : c ≠ first) (second replacement : Char)
    (rest : List Char) : replacePair first second replacement (c :: rest) =
      c :: replacePair first second replacement rest := by
  cases rest with
  | nil => rfl
  | cons d rest => exact if_neg fun hpair => h hpair.1

theorem replacePair_pair (first second replacement : Char) (rest : List Char) :
    replacePair first second replacement (first :: second :: rest) =
      replacement :: replacePair first second replacement rest :=
  if_pos ⟨rfl, rfl⟩

/-- What is left of a character after slashes are read: a tilde is still written as two characters. -/
def tildeChar (c : Char) : List Char :=
  if c = '~' then ['~', '0'] else [c]

/-- Slashes are read, and the tildes that were written for them are gone. -/
theorem replacePair_slash (key : List Char) :
    replacePair '~' '1' '/' (key.flatMap escapeChar) = key.flatMap tildeChar := by
  induction key with
  | nil => rfl
  | cons c key ih =>
    rw [List.flatMap_cons, List.flatMap_cons, escapeChar, tildeChar]
    by_cases htilde : c = '~'
    · rw [if_pos htilde, if_pos htilde, ← ih]
      -- the zero behind the tilde keeps it from being read
      exact congrArg ('~' :: ·) (replacePair_cons_of_ne (by decide) _ _ _)
    · rw [if_neg htilde, if_neg htilde]
      by_cases hslash : c = '/'
      · rw [if_pos hslash, hslash, ← ih]
        exact replacePair_pair _ _ _ _
      · rw [if_neg hslash, ← ih]
        exact replacePair_cons_of_ne htilde _ _ _

/-- Tildes are read. -/
theorem replacePair_tilde (key : List Char) :
    replacePair '~' '0' '~' (key.flatMap tildeChar) = key := by
  induction key with
  | nil => rfl
  | cons c key ih =>
    rw [List.flatMap_cons, tildeChar]
    by_cases htilde : c = '~'
    · rw [if_pos htilde, htilde]
      exact (replacePair_pair _ _ _ _).trans (congrArg ('~' :: ·) ih)
    · rw [if_neg htilde]
      exact (replacePair_cons_of_ne htilde _ _ _).trans (congrArg (c :: ·) ih)

/-- A key is read back from what is written for it. -/
theorem unescape_escape (key : String) : unescape (escape key) = key := by
  unfold unescape escape
  rw [replacePair_slash, replacePair_tilde, String.ofList_toList]

/-! ## Positions -/

/-- Only zero has digits that start with a zero. -/
theorem eq_zero_of_head?_toDigits {n : Nat} (h : (Nat.toDigits 10 n).head? = some '0') : n = 0 := by
  induction n using Nat.strongRecOn with
  | ind n ih =>
    rcases Nat.lt_or_ge n 10 with hlt | hle
    · rw [Nat.toDigits_of_lt_base hlt, List.head?_cons] at h
      interval_cases n <;> first | rfl | exact absurd h (by decide)
    · rw [Nat.toDigits_of_base_le (by decide) hle,
        List.head?_append_of_ne_nil _ Nat.toDigits_ne_nil] at h
      have hzero := ih (n / 10) (by omega) h
      omega

/-- A position is read back from its decimal digits. -/
theorem index?_toString (n : Nat) : index? (toString n) = some n := by
  have hdigits : (toString n).toList = Nat.toDigits 10 n := Nat.toList_repr
  have hall : (Nat.toDigits 10 n).all Char.isDigit = true := List.all_eq_true.2 fun c hc =>
    Nat.isDigit_of_mem_toDigits (by decide) (by decide) hc
  have hvalue : Numeral.value (Nat.toDigits 10 n) = n :=
    Nat.ofDigitChars_toDigits (by decide) (by decide)
  have hzero : (Nat.toDigits 10 n).head? = some '0' → (Nat.toDigits 10 n).length = 1 := by
    intro h
    rw [eq_zero_of_head?_toDigits h]
    rfl
  unfold index?
  rw [hdigits]
  simp only [hvalue]
  exact if_pos ⟨Nat.toDigits_ne_nil, hall, hzero⟩

/-! ## Pointers -/

/-- The pointer for steps: what is written for each of them, after a slash. -/
def text (steps : List Step) : String :=
  String.ofList (Pieces.slashed (steps.map fun step => escape step.text))

/-- The keys of a pointer are those of its steps. -/
theorem keys?_text (steps : List Step) : keys? (text steps).toList = some (steps.map Step.text) := by
  unfold text
  rw [String.toList_ofList]
  cases steps with
  | nil => rfl
  | cons step steps =>
    have hslash : ∀ part ∈ steps.map (fun step => escape step.text), '/' ∉ part := by
      intro part hpart
      obtain ⟨other, _, rfl⟩ := List.mem_map.1 hpart
      exact slash_notMem_escape _
    rw [List.map_cons, Pieces.slashed_cons, keys?, Pieces.pieces_slashed (slash_notMem_escape _) hslash]
    simp [unescape_escape]

theorem follow?_of_leads {steps : List Step} {root value : Json} (h : Leads steps root value) :
    follow? (steps.map Step.text) root = some value := by
  induction h with
  | nil value => rfl
  | key hchild _ ih =>
    exact Option.bind_eq_some_iff.2 ⟨_, hchild, ih⟩
  | @item items position child hchild steps value _ ih =>
    have hitem : child? (Step.item position).text (.array items) = some child :=
      Option.bind_eq_some_iff.2 ⟨position, index?_toString position, hchild⟩
    exact Option.bind_eq_some_iff.2 ⟨child, hitem, ih⟩

end Pointer

/-- A pointer leads where its steps lead. -/
theorem pointer?_text {steps : List Step} {root value : Json} (h : Leads steps root value) :
    root.pointer? (Pointer.text steps) = some value := by
  unfold pointer?
  rw [Pointer.keys?_text]
  exact Pointer.follow?_of_leads h

end Json

namespace Utf8

/-- The bytes of a part after a slash and of what follows. -/
theorem encode_slash_append (part rest : List Char) :
    encode (String.ofList ('/' :: (part ++ rest))) =
      encode "/" ++ (encode (String.ofList part) ++ encode (String.ofList rest)) := by
  have hparts : String.ofList ('/' :: (part ++ rest)) =
      String.ofList ['/'] ++ (String.ofList part ++ String.ofList rest) := by
    rw [← String.ofList_append, ← String.ofList_append, List.singleton_append]
  rw [hparts, encode_append, encode_append]

end Utf8

namespace Percent

/-- Parts may be escaped one by one: the slashes between them stand for themselves. -/
theorem isEscapedAs_slashed (parts : List (List Char)) :
    IsEscapedAs (Utf8.encode (String.ofList (Pieces.slashed parts)))
      (Utf8.encode (String.ofList (Pieces.slashed (parts.map fun part =>
        (encodeText (String.ofList part)).toList)))) := by
  have hslash : IsEscapedAs (Utf8.encode "/") (Utf8.encode "/") := .plain (by decide) .nil
  induction parts with
  | nil => exact .nil
  | cons part parts ih =>
    rw [List.map_cons, Pieces.slashed_cons, Pieces.slashed_cons, Utf8.encode_slash_append,
      Utf8.encode_slash_append, String.ofList_toList]
    exact hslash.append ((isEscapedAs_encode _).append ih)

end Percent

namespace Reference

/-! ## References -/

/-- A text is `#` and the pointer for steps, written with percent escapes. -/
def IsWrittenFor (steps : List Json.Step) (text : String) : Prop :=
  ∃ fragment, text = "#" ++ fragment ∧
    Percent.IsEscapedAs (Utf8.encode (Json.Pointer.text steps)) (Utf8.encode fragment)

/-- The reference along steps: before each of them a slash, and in what is written for it an escape for
every byte but the ASCII letters and digits. -/
def canonical (steps : List Json.Step) : String :=
  "#" ++ String.ofList (Pieces.slashed (steps.map fun step =>
    (Percent.encodeText (String.ofList (Json.Pointer.escape step.text))).toList))

theorem isWrittenFor_canonical (steps : List Json.Step) : IsWrittenFor steps (canonical steps) := by
  have hescaped :=
    Percent.isEscapedAs_slashed (steps.map fun step => Json.Pointer.escape step.text)
  rw [List.map_map] at hescaped
  exact ⟨_, rfl, hescaped⟩

/-- A reference that is written for steps is resolved to the value they lead to. -/
theorem target_of_isWrittenFor {root value : Json} {steps : List Json.Step} {text : String}
    (hleads : Json.Leads steps root value) (htext : IsWrittenFor steps text) :
    target root text = .ok value := by
  obtain ⟨fragment, rfl, hescaped⟩ := htext
  have hpointer : Percent.decodeText fragment = Json.Pointer.text steps := by
    unfold Percent.decodeText
    rw [hescaped.decode_eq, Utf8.decodeLossy_encode]
  refine target_eq_ok_iff.2 ⟨fragment.toList, String.toList_append, ?_⟩
  rw [String.ofList_toList, hpointer]
  exact Json.pointer?_text hleads

/-- Every part of a document is found by the references to it, and a text is remote, and named so, just
when it does not start with `#`. -/
structure FindsTargets (root : Json) : Prop where
  target_canonical : ∀ steps value, Json.Leads steps root value →
    target root (canonical steps) = .ok value
  /-- It makes no difference which of the other bytes have an escape, nor the case of its digits. -/
  target_written : ∀ steps value, Json.Leads steps root value →
    ∀ text, IsWrittenFor steps text → target root text = .ok value
  remote_iff : ∀ text named, target root text = .error (.remote named) ↔
    named = text ∧ text.toList.head? ≠ some '#'

/-- Canonical references find their targets in every document. -/
theorem findsTargets (root : Json) : FindsTargets root := by
  constructor
  case target_canonical =>
    intro steps value hleads
    exact target_of_isWrittenFor hleads (isWrittenFor_canonical steps)
  case target_written =>
    intro steps value hleads text htext
    exact target_of_isWrittenFor hleads htext
  case remote_iff =>
    intro text named
    rw [target_eq_error_iff]
    constructor
    · rintro ⟨hremote⟩
      exact ⟨rfl, hremote⟩
    · rintro ⟨rfl, hremote⟩
      exact .remote hremote

/-- Keys that look like escapes, an empty key and a position are written and read back. -/
theorem target_of_escapes_as_keys :
    canonical [.key "~1", .item 1, .key "%2F#", .key ""] = "#/%7E01/1/%252F%23/" ∧
    target (.object [("/", .null), ("~1", .array [.null, .object [("%2F#", .object [("", .bool true)])]])])
      "#/%7E01/1/%252F%23/" = .ok (.bool true) := by
  have htext : canonical [.key "~1", .item 1, .key "%2F#", .key ""] = "#/%7E01/1/%252F%23/" := by
    decide +kernel
  refine ⟨htext, ?_⟩
  rw [← htext]
  exact (findsTargets _).target_canonical _ _ (.key rfl (.item rfl (.key rfl (.key rfl (.nil _)))))

end Reference
end RequestGate
