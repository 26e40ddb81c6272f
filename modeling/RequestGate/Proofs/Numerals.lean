import Mathlib.Data.List.TakeDrop
import Mathlib.Data.List.TakeWhile
import RequestGate.Numeral
import RequestGate.Text.Blank

/-!
# Texts of numerals

A text that is split into the parts of a numeral is made of these parts, so it has digits, signs, a
point and an exponent mark only.  There are no blanks to trim, and anything else behind the leading
digits keeps a text from being a numeral.

Main results:

- Theorem `Numeral.isWritten_of_split?`: a text is what its parts are written as.
- Theorem `Numeral.isNumeralChar_of_split?`: the characters of numerals.
- Theorem `Numeral.trim_of_split?`: a numeral has no blanks at its ends.
- Theorem `Numeral.split?_eq_none_of_hyphen`: where a hyphen stands in a numeral.
- Theorem `Numeral.IsSpelling.split?`: the parts of a text that is written for a numeral are found again.
-/

namespace RequestGate
namespace Numeral

/-! ## Parts as they are written -/

/-- A sign as it is written. -/
def signText : Option Bool → List Char
  | none => []
  | some false => ['+']
  | some true => ['-']

/-- A fraction as it is written. -/
def fractionText : Option (List Char) → List Char
  | none => []
  | some digits => '.' :: digits

/-- A text is made of ASCII digits. -/
def AllDigits (text : List Char) : Prop :=
  ∀ c ∈ text, c.isDigit = true

/-- An exponent is written with either mark. -/
inductive WritesExponent : Option (Option Bool × List Char) → List Char → Prop
  | none : WritesExponent none []
  | some {mark : Char} (hmark : mark = 'e' ∨ mark = 'E') (sign : Option Bool) {digits : List Char}
    (hdigits : AllDigits digits) :
    WritesExponent (some (sign, digits)) (mark :: (signText sign ++ digits))

/-- A text is written for a numeral. -/
structure IsWritten (n : Numeral) (text : List Char) : Prop where
  whole : AllDigits n.whole
  fraction : AllDigits (n.fraction.getD [])
  parts : ∃ exponent, WritesExponent n.exponent exponent ∧
    text = signText n.sign ++ (n.whole ++ (fractionText n.fraction ++ exponent))

/-- A text is split from its front to its exponent. -/
theorem split?_eq (text : List Char) :
    split? text = (splitExponent? (splitFraction (splitDigits (splitSign text).2).2).2).map
      (⟨(splitSign text).1, (splitDigits (splitSign text).2).1,
        (splitFraction (splitDigits (splitSign text).2).2).1, ·⟩) := by
  cases hexponent : splitExponent? (splitFraction (splitDigits (splitSign text).2).2).2 with
  | none =>
    simp only [split?, hexponent]
    rfl
  | some exponent =>
    simp only [split?, hexponent]
    rfl

theorem splitExponent?_cons (mark : Char) (rest : List Char) :
    splitExponent? (mark :: rest) =
      if mark = 'e' ∨ mark = 'E' then
        if (splitDigits (splitSign rest).2).1 ≠ [] ∧ (splitDigits (splitSign rest).2).2 = [] then
          some (some ((splitSign rest).1, (splitDigits (splitSign rest).2).1))
        else none
      else none :=
  rfl

theorem splitSign_spec (text : List Char) :
    text = signText (splitSign text).1 ++ (splitSign text).2 := by
  unfold splitSign
  split <;> rfl

theorem splitDigits_spec (text : List Char) :
    text = (splitDigits text).1 ++ (splitDigits text).2 ∧ AllDigits (splitDigits text).1 := by
  unfold splitDigits
  rw [List.span_eq_takeWhile_dropWhile]
  exact ⟨List.takeWhile_append_dropWhile.symm, fun c hc => List.mem_takeWhile_imp hc⟩

theorem splitFraction_spec (text : List Char) :
    text = fractionText (splitFraction text).1 ++ (splitFraction text).2 ∧
      AllDigits ((splitFraction text).1.getD []) := by
  unfold splitFraction
  split
  case h_1 rest =>
    obtain ⟨hparts, hdigits⟩ := splitDigits_spec rest
    exact ⟨congrArg (List.cons '.') hparts, hdigits⟩
  case h_2 => exact ⟨rfl, fun c hc => absurd hc List.not_mem_nil⟩

theorem writesExponent_of_splitExponent? {text : List Char}
    {exponent : Option (Option Bool × List Char)} (h : splitExponent? text = some exponent) :
    WritesExponent exponent text := by
  cases text with
  | nil =>
    cases h
    exact .none
  | cons mark rest =>
    rw [splitExponent?_cons] at h
    split at h
    case isTrue hmark =>
      split at h
      case isTrue hend =>
        obtain ⟨hparts, hdigits⟩ := splitDigits_spec (splitSign rest).2
        have hrest : rest = signText (splitSign rest).1 ++ (splitDigits (splitSign rest).2).1 := by
          rw [hend.2, List.append_nil] at hparts
          rw [← hparts]
          exact splitSign_spec rest
        cases h
        rw [congrArg (List.cons mark) hrest]
        exact .some hmark _ hdigits
      case isFalse => cases h
    case isFalse => cases h

/-- A text is what its parts are written as. -/
theorem isWritten_of_split? {text : List Char} {n : Numeral} (h : split? text = some n) :
    n.IsWritten text := by
  rw [split?_eq] at h
  obtain ⟨exponent, hexponent, rfl⟩ := Option.map_eq_some_iff.1 h
  obtain ⟨hwhole, hwholeDigits⟩ := splitDigits_spec (splitSign text).2
  obtain ⟨hfraction, hfractionDigits⟩ := splitFraction_spec (splitDigits (splitSign text).2).2
  refine ⟨hwholeDigits, hfractionDigits, _, writesExponent_of_splitExponent? hexponent, ?_⟩
  rw [← hfraction, ← hwhole]
  exact splitSign_spec text

/-! ## Characters -/

/-- A character that numerals are written with. -/
def IsNumeralChar (c : Char) : Prop :=
  c.isDigit = true ∨ c ∈ ['+', '-', '.', 'e', 'E']

instance (c : Char) : Decidable (IsNumeralChar c) :=
  inferInstanceAs (Decidable (_ ∨ _))

theorem isNumeralChar_of_mem_signText {sign : Option Bool} {c : Char} (hc : c ∈ signText sign) :
    IsNumeralChar c := by
  refine Or.inr ?_
  cases sign with
  | none => exact absurd hc List.not_mem_nil
  | some negative =>
    cases negative <;> rw [List.mem_singleton.1 hc] <;> decide

theorem WritesExponent.isNumeralChar {exponent : Option (Option Bool × List Char)} {text : List Char}
    (h : WritesExponent exponent text) {c : Char} (hc : c ∈ text) : IsNumeralChar c := by
  cases h with
  | none => exact absurd hc List.not_mem_nil
  | some hmark sign hdigits =>
    rcases List.mem_cons.1 hc with rfl | hc
    · rcases hmark with rfl | rfl
      · exact Or.inr (by decide)
      · exact Or.inr (by decide)
    · rcases List.mem_append.1 hc with hc | hc
      · exact isNumeralChar_of_mem_signText hc
      · exact Or.inl (hdigits c hc)

/-- A numeral has no other characters. -/
theorem isNumeralChar_of_split? {text : List Char} {n : Numeral} (h : split? text = some n) {c : Char}
    (hc : c ∈ text) : IsNumeralChar c := by
  obtain ⟨hwhole, hfraction, exponent, hexponent, htext⟩ := isWritten_of_split? h
  rw [htext] at hc
  simp only [List.mem_append] at hc
  rcases hc with hc | hc | hc | hc
  · exact isNumeralChar_of_mem_signText hc
  · exact Or.inl (hwhole c hc)
  · cases hdigits : n.fraction with
    | none =>
      rw [hdigits] at hc
      exact absurd hc List.not_mem_nil
    | some digits =>
      rw [hdigits] at hc hfraction
      rcases List.mem_cons.1 hc with rfl | hc
      · exact Or.inr (by decide)
      · exact Or.inl (hfraction c hc)
  · exact hexponent.isNumeralChar hc

/-- Text with a character that no numeral has is none. -/
theorem split?_eq_none_of_mem {text : List Char} {c : Char} (hc : c ∈ text)
    (hforeign : ¬ IsNumeralChar c) : split? text = none := by
  cases hsplit : split? text with
  | none => rfl
  | some n => exact absurd (isNumeralChar_of_split? hsplit hc) hforeign

theorem code_of_isDigit {c : Char} (h : c.isDigit = true) : 48 ≤ c.toNat ∧ c.toNat ≤ 57 := by
  simp only [Char.isDigit, Bool.and_eq_true, decide_eq_true_eq] at h
  exact h

theorem IsNumeralChar.isBlank_eq_false {c : Char} (h : IsNumeralChar c) : Blank.isBlank c = false := by
  rcases h with hdigit | hmark
  · have hcode := code_of_isDigit hdigit
    rw [Bool.eq_false_iff]
    intro hblank
    simp only [Blank.isBlank, Bool.or_eq_true, Bool.and_eq_true, decide_eq_true_eq, beq_iff_eq]
      at hblank
    omega
  · simp only [List.mem_cons, List.not_mem_nil, or_false] at hmark
    rcases hmark with rfl | rfl | rfl | rfl | rfl <;> decide

/-- A numeral has no blanks at its ends. -/
theorem trim_of_split? {text : String} {n : Numeral} (h : split? text.toList = some n) :
    Blank.trim text = text := by
  have hblank : ∀ c ∈ text.toList, Blank.isBlank c = false := fun c hc =>
    (isNumeralChar_of_split? h hc).isBlank_eq_false
  have hdrop : ∀ list : List Char, (∀ c ∈ list, Blank.isBlank c = false) →
      list.dropWhile Blank.isBlank = list := by
    intro list hlist
    cases list with
    | nil => rfl
    | cons c rest => exact List.dropWhile_cons_of_neg (by simp [hlist c List.mem_cons_self])
  unfold Blank.trim Blank.trimChars
  rw [hdrop _ hblank, hdrop _ (fun c hc => hblank c (List.mem_reverse.1 hc)), List.reverse_reverse,
    String.ofList_toList]

/-- Behind its sign and its leading digits a numeral has a point, an exponent or nothing. -/
theorem split?_eq_none_of_stop {text rest : List Char} {c : Char}
    (hstop : (splitDigits (splitSign text).2).2 = c :: rest) (hc : c ∉ ['.', 'e', 'E']) :
    split? text = none := by
  simp only [List.mem_cons, List.not_mem_nil, or_false, not_or] at hc
  have hfraction : splitFraction (c :: rest) = (none, c :: rest) := by
    unfold splitFraction
    split
    case h_1 heq => exact absurd (List.cons.inj heq).1 hc.1
    case h_2 => rfl
  have hexponent : splitExponent? (c :: rest) = none := by
    rw [splitExponent?_cons]
    exact if_neg (not_or.2 hc.2)
  rw [split?_eq, hstop, hfraction, hexponent]
  rfl

/-- A stretch without points and exponent marks before a character that is no digit ends the leading
digits in the stretch or at that character. -/
theorem exists_dropWhile_eq_cons {front : List Char} (rest : List Char) {c : Char} {marks : List Char}
    (hfront : ∀ d ∈ front, d ∉ marks) (hdigit : c.isDigit = false) (hc : c ∉ marks) :
    ∃ d rest', (front ++ c :: rest).dropWhile Char.isDigit = d :: rest' ∧ d ∉ marks := by
  induction front with
  | nil => exact ⟨c, rest, List.dropWhile_cons_of_neg (by simp [hdigit]), hc⟩
  | cons x front ih =>
    rw [List.forall_mem_cons] at hfront
    by_cases hx : x.isDigit = true
    · rw [List.cons_append, List.dropWhile_cons_of_pos hx]
      exact ih hfront.2
    · exact ⟨x, front ++ c :: rest, List.dropWhile_cons_of_neg hx, hfront.1⟩

/-- A hyphen behind other characters is the sign of an exponent. -/
theorem split?_eq_none_of_hyphen {front rest : List Char} (hne : front ≠ [])
    (hfront : ∀ d ∈ front, d ∉ ['+', '-', '.', 'e', 'E']) : split? (front ++ '-' :: rest) = none := by
  have hsign : (splitSign (front ++ '-' :: rest)).2 = front ++ '-' :: rest := by
    cases front with
    | nil => exact absurd rfl hne
    | cons x front =>
      have hx := hfront x List.mem_cons_self
      simp only [List.mem_cons, not_or] at hx
      unfold splitSign
      split
      case h_1 heq => exact absurd (List.cons.inj heq).1 hx.1
      case h_2 heq => exact absurd (List.cons.inj heq).1 hx.2.1
      case h_3 => rfl
  have hmarks : ∀ d ∈ front, d ∉ ['.', 'e', 'E'] := fun d hd hmem =>
    hfront d hd (List.mem_cons_of_mem _ (List.mem_cons_of_mem _ hmem))
  have hhyphen : '-' ∉ ['.', 'e', 'E'] := by decide
  obtain ⟨d, behind, hdrop, hd⟩ := exists_dropWhile_eq_cons rest hmarks (by decide) hhyphen
  have hstop : (splitDigits (splitSign (front ++ '-' :: rest)).2).2 = d :: behind := by
    rw [hsign]
    unfold splitDigits
    rw [List.span_eq_takeWhile_dropWhile]
    exact hdrop
  exact split?_eq_none_of_stop hstop hd

/-! ## Parts that are found again -/

/-- A text is written for a numeral with a digit in every part that it has. -/
structure IsSpelling (n : Numeral) (text : List Char) : Prop where
  written : n.IsWritten text
  whole : n.whole ≠ []
  fraction : n.fraction ≠ some []
  exponent : ∀ sign, n.exponent ≠ some (sign, [])

/-- A text does not go on with a digit. -/
def StopsDigits (text : List Char) : Prop :=
  ∀ c ∈ text.head?, c.isDigit = false

theorem splitDigits_append {digits rest : List Char} (hdigits : AllDigits digits)
    (hrest : StopsDigits rest) : splitDigits (digits ++ rest) = (digits, rest) := by
  have hhead : ∀ c ∈ rest.head?, ¬ c.isDigit = true := fun c hc => by simp [hrest c hc]
  unfold splitDigits
  rw [List.span_eq_takeWhile_dropWhile, List.takeWhile_append_of_pos hdigits,
    List.dropWhile_append_of_pos hdigits]
  cases rest with
  | nil => simp
  | cons c rest =>
    have hc := hhead c rfl
    rw [List.takeWhile_cons_of_neg hc, List.dropWhile_cons_of_neg hc, List.append_nil]

/-- A sign is found before a digit. -/
theorem splitSign_append (sign : Option Bool) {c : Char} (hc : c.isDigit = true) (rest : List Char) :
    splitSign (signText sign ++ c :: rest) = (sign, c :: rest) := by
  cases sign with
  | some negative => cases negative <;> rfl
  | none =>
    unfold splitSign
    split
    case h_1 heq =>
      rw [(List.cons.inj heq).1] at hc
      exact absurd hc (by decide)
    case h_2 heq =>
      rw [(List.cons.inj heq).1] at hc
      exact absurd hc (by decide)
    case h_3 => rfl

theorem WritesExponent.stopsDigits {exponent : Option (Option Bool × List Char)} {text : List Char}
    (h : WritesExponent exponent text) : StopsDigits text := by
  cases h with
  | none => exact fun c hc => nomatch hc
  | some hmark =>
    rintro c ⟨⟩
    rcases hmark with rfl | rfl <;> decide

theorem splitFraction_append {fraction : Option (List Char)} (hfraction : AllDigits (fraction.getD []))
    {exponent : Option (Option Bool × List Char)} {rest : List Char}
    (hrest : WritesExponent exponent rest) :
    splitFraction (fractionText fraction ++ rest) = (fraction, rest) := by
  cases fraction with
  | some digits =>
    have hsplit : splitDigits (digits ++ rest) = (digits, rest) :=
      splitDigits_append hfraction hrest.stopsDigits
    unfold splitFraction fractionText
    simp only [List.cons_append, hsplit]
  | none =>
    unfold splitFraction fractionText
    split
    case h_1 heq =>
      -- An exponent does not start with a point.
      cases hrest with
      | none => cases heq
      | some hmark =>
        obtain rfl := (List.cons.inj heq).1
        exact absurd hmark (by decide)
    case h_2 => rfl

theorem splitExponent?_of_writesExponent {exponent : Option (Option Bool × List Char)}
    {text : List Char} (h : WritesExponent exponent text) (hne : ∀ sign, exponent ≠ some (sign, [])) :
    splitExponent? text = some exponent := by
  cases h with
  | none => rfl
  | @some mark hmark sign digits hdigits =>
    cases digits with
    | nil => exact absurd rfl (hne sign)
    | cons c digits =>
      have hsign := splitSign_append sign (hdigits c List.mem_cons_self) digits
      have hsplit : splitDigits (c :: digits) = (c :: digits, []) := by
        have hall : splitDigits (c :: digits ++ []) = (c :: digits, []) :=
          splitDigits_append hdigits nofun
        rwa [List.append_nil] at hall
      rw [splitExponent?_cons, if_pos hmark, hsign, hsplit]
      simp

/-- A numeral with a digit in every part is split into its parts. -/
theorem IsSpelling.split? {text : List Char} {n : Numeral} (h : n.IsSpelling text) :
    split? text = some n := by
  obtain ⟨⟨hwhole, hfraction, rest, hrest, rfl⟩, hne, _, hexponent⟩ := h
  obtain ⟨sign, whole, fraction, exponent⟩ := n
  cases whole with
  | nil => exact absurd rfl hne
  | cons c whole =>
    have hsign := splitSign_append sign (hwhole c List.mem_cons_self)
      (whole ++ (fractionText fraction ++ rest))
    have hstops : StopsDigits (fractionText fraction ++ rest) := by
      cases fraction with
      | none => exact hrest.stopsDigits
      | some digits =>
        rintro c ⟨⟩
        decide
    have hdigits := splitDigits_append hwhole hstops
    rw [List.cons_append] at hdigits
    rw [split?_eq]
    simp only [List.cons_append, hsign, hdigits, splitFraction_append hfraction hrest,
      splitExponent?_of_writesExponent hrest hexponent]
    rfl

/-- An exponent that is found has a digit. -/
theorem exponent_ne_of_split? {text : List Char} {n : Numeral} (h : split? text = some n)
    (sign : Option Bool) : n.exponent ≠ some (sign, []) := by
  rw [split?_eq] at h
  obtain ⟨exponent, hexponent, rfl⟩ := Option.map_eq_some_iff.1 h
  intro hsign
  obtain rfl : exponent = some (sign, []) := hsign
  cases htext : (splitFraction (splitDigits (splitSign text).2).2).2 with
  | nil =>
    rw [htext] at hexponent
    cases hexponent
  | cons mark rest =>
    rw [htext, splitExponent?_cons] at hexponent
    split at hexponent
    case isTrue =>
      split at hexponent
      case isTrue hend =>
        rw [Option.some.injEq, Option.some.injEq, Prod.mk.injEq] at hexponent
        exact hend.1 hexponent.2
      case isFalse => cases hexponent
    case isFalse => cases hexponent

end Numeral
end RequestGate
