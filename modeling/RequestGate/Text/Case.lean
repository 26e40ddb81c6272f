import RequestGate.Unicode.CaseTable

/-!
# Letter case

`lower` is the full lower-case mapping of a text.  Every character maps on its own, except that a
capital sigma at the end of a word becomes a final sigma: the nearest character before it that is
not ignorable is cased, and the nearest such character after it is not.

`isUpper` is the property Uppercase of a character.
-/

namespace RequestGate
namespace Case

/-- Whether a code point lies in one of the ranges. -/
def inRanges (ranges : List (Nat × Nat)) (code : Nat) : Bool :=
  ranges.any fun (first, last) => first ≤ code && code ≤ last

/-- Whether a code point lies in a run. -/
def inRun (first last stride code : Nat) : Bool :=
  first ≤ code && code ≤ last && (code - first) % stride == 0

/-- The property Uppercase. -/
def isUpper (c : Char) : Bool :=
  Unicode.upperCaseRuns.any fun (first, last, stride) => inRun first last stride c.toNat

/-- The property Cased. -/
def isCased (c : Char) : Bool :=
  inRanges Unicode.casedRanges c.toNat

/-- The property Case_Ignorable. -/
def isIgnorable (c : Char) : Bool :=
  inRanges Unicode.caseIgnorableRanges c.toNat

/-- The lower case of an ASCII letter; every other character is unchanged. -/
def lowerAscii (c : Char) : Char :=
  if 'A' ≤ c ∧ c ≤ 'Z' then Char.ofNat (c.toNat + 32) else c

/-- The upper case of an ASCII letter; every other character is unchanged. -/
def upperAscii (c : Char) : Char :=
  if 'a' ≤ c ∧ c ≤ 'z' then Char.ofNat (c.toNat - 32) else c

/-- A text with its ASCII letters in lower case. -/
def lowerAsciiText (s : String) : String :=
  String.ofList (s.toList.map lowerAscii)

/-- A text with its ASCII letters in upper case. -/
def upperAsciiText (s : String) : String :=
  String.ofList (s.toList.map upperAscii)

/-- The single-character lower case from the table. -/
def lowerChar (c : Char) : Char :=
  match Unicode.lowerCaseRuns.find? fun (first, last, stride, _) => inRun first last stride c.toNat with
  | some (_, _, _, offset) => Char.ofNat (c.toNat + offset).toNat
  | none => c

/-- The lower case of a character apart from its neighbours. -/
def lowerAlone (c : Char) : List Char :=
  if c.toNat < 0x80 then [lowerAscii c]
  else if c = '\u0130' then ['i', '\u0307']
  else [lowerChar c]

/-- Whether the nearest character that is not ignorable is cased. -/
def nextIsCased (text : List Char) : Bool :=
  match text.dropWhile isIgnorable with
  | [] => false
  | c :: _ => isCased c

/-- The lower case of a text, given the characters before it, the nearest first. -/
def lowerAfter (before : List Char) : List Char → List (List Char)
  | [] => []
  | c :: rest =>
    (if c = '\u03A3' then
      if nextIsCased before && !nextIsCased rest then ['\u03C2'] else ['\u03C3']
    else lowerAlone c) :: lowerAfter (c :: before) rest

/-- The lower case of a text. -/
def lower (s : String) : String :=
  String.ofList (lowerAfter [] s.toList).flatten

end Case
end RequestGate
