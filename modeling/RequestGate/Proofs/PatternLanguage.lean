import Mathlib.Computability.Language
import RequestGate.Proofs.Matching

/-!
# The language of a pattern

A pattern without conditions describes the same texts wherever they stand.  They are a formal language,
put together from those of the parts of the pattern.

Main results:

- Theorem `Pattern.spans_iff_mem_language`: a pattern without conditions describes the parts of a text
  that are in its language.
- Theorem `Pattern.isMatch_whole_iff_mem_language`: a pattern for whole texts matches the texts of a
  language.
- Theorem `Pattern.mem_singles_mul_kstar`, `Pattern.mem_singles_pow`: texts of some characters, as many as
  one likes or a number of them.
- Theorem `Pattern.language_exactly`, `Pattern.language_optional`, `Pattern.language_oneOrMore`: the
  languages of repetitions.
-/

namespace RequestGate
namespace Pattern

open Computability

/-! ## Texts of one character -/

/-- The texts of one character with a property. -/
def singles (p : Char → Prop) : Language Char :=
  {text | ∃ c, p c ∧ text = [c]}

variable {p : Char → Prop} {text : List Char}

theorem mem_singles : text ∈ singles p ↔ ∃ c, p c ∧ text = [c] :=
  Iff.rfl

theorem singles_congr {q : Char → Prop} (h : ∀ c, p c ↔ q c) : singles p = singles q := by
  ext text
  simp only [mem_singles, h]

/-- So many characters with a property. -/
theorem mem_singles_pow {n : Nat} :
    text ∈ singles p ^ n ↔ text.length = n ∧ ∀ c ∈ text, p c := by
  induction n generalizing text with
  | zero =>
    rw [pow_zero, Language.mem_one, List.length_eq_zero_iff]
    exact ⟨fun h => ⟨h, fun c hc => absurd hc (h ▸ List.not_mem_nil)⟩, And.left⟩
  | succ n ih =>
    rw [pow_succ', Language.mem_mul]
    constructor
    · rintro ⟨first, ⟨c, hc, rfl⟩, rest, hrest, rfl⟩
      obtain ⟨hlength, hall⟩ := ih.1 hrest
      exact ⟨congrArg (· + 1) hlength, List.forall_mem_cons.2 ⟨hc, hall⟩⟩
    · rintro ⟨hlength, hall⟩
      cases text with
      | nil => cases hlength
      | cons c rest =>
        obtain ⟨hc, hrest⟩ := List.forall_mem_cons.1 hall
        exact ⟨[c], ⟨c, hc, rfl⟩, rest, ih.2 ⟨Nat.succ.inj hlength, hrest⟩, rfl⟩

/-- Characters with a property, as many as one likes. -/
theorem mem_kstar_singles : text ∈ (singles p)∗ ↔ ∀ c ∈ text, p c := by
  rw [Language.kstar_eq_iSup_pow, Language.mem_iSup]
  simp only [mem_singles_pow, exists_eq_left']

/-- Characters with a property, at least one. -/
theorem mem_singles_mul_kstar :
    text ∈ singles p * (singles p)∗ ↔ text ≠ [] ∧ ∀ c ∈ text, p c := by
  rw [Language.mem_mul]
  constructor
  · rintro ⟨first, ⟨c, hc, rfl⟩, rest, hrest, rfl⟩
    exact ⟨List.cons_ne_nil _ _, List.forall_mem_cons.2 ⟨hc, mem_kstar_singles.1 hrest⟩⟩
  · rintro ⟨hne, hall⟩
    cases text with
    | nil => exact absurd rfl hne
    | cons c rest =>
      obtain ⟨hc, hrest⟩ := List.forall_mem_cons.1 hall
      exact ⟨[c], ⟨c, hc, rfl⟩, rest, mem_kstar_singles.2 hrest, rfl⟩

/-! ## Patterns without conditions -/

/-- Whether a pattern asks nothing of what stands around a text. -/
def isUnconditional : Pattern → Bool
  | .empty | .one _ => true
  | .condition _ => false
  | .sequence first second | .choice first second =>
    first.isUnconditional && second.isUnconditional
  | .repeated _ _ body => body.isUnconditional

/-- The texts that a pattern describes, conditions apart. -/
def language : Pattern → Language Char
  | .empty => 1
  | .one set => singles fun c => set.contains c = true
  | .condition _ => 0
  | .sequence first second => first.language * second.language
  | .choice first second => first.language + second.language
  | .repeated least most body =>
    {text | ∃ n, least ≤ n ∧ (∀ m ∈ most, n ≤ max least m) ∧ text ∈ body.language ^ n}

/-- Two parts stand one after another exactly when both together stand where the first does. -/
theorem append_prefix_drop_iff {first second : List Char} {i : Nat} :
    first ++ second <+: text.drop i ↔
      first <+: text.drop i ∧ second <+: text.drop (i + first.length) := by
  constructor
  · rintro ⟨rest, hrest⟩
    refine ⟨⟨second ++ rest, by rw [← hrest, List.append_assoc]⟩, rest, ?_⟩
    rw [← List.drop_drop, ← hrest, List.append_assoc, List.drop_left]
  · rintro ⟨⟨rest, hrest⟩, hsecond⟩
    rw [← List.drop_drop, ← hrest, List.drop_left] at hsecond
    rw [← hrest]
    exact (List.prefix_append_right_inj first).2 hsecond

/-- A pattern describes the parts of a text that are in a language. -/
def SpansLanguage (text : Array Char) (R : Nat → Nat → Prop) (L : Language Char) : Prop :=
  ∀ i j, R i j ↔ ∃ part ∈ L, part <+: text.toList.drop i ∧ j = i + part.length

namespace SpansLanguage

variable {text : Array Char} {R S : Nat → Nat → Prop} {L M : Language Char}

theorem empty : SpansLanguage text (fun i j => j = i) 1 := by
  intro i j
  simp only [Language.mem_one, exists_eq_left, List.length_nil, List.nil_prefix, true_and, Nat.add_zero]

theorem one (set : CharSet) : SpansLanguage text ((Pattern.one set).Spans text)
    (Pattern.one set).language := by
  intro i j
  constructor
  · rintro ⟨rfl, c, hc, hset⟩
    refine ⟨[c], ⟨c, hset, rfl⟩, ?_, rfl⟩
    rw [← Array.getElem?_toList, ← List.head?_drop] at hc
    obtain ⟨rest, hrest⟩ := List.head?_eq_some_iff.1 hc
    exact ⟨rest, hrest.symm⟩
  · rintro ⟨_, ⟨c, hset, rfl⟩, ⟨rest, hrest⟩, rfl⟩
    refine ⟨rfl, c, ?_, hset⟩
    rw [← Array.getElem?_toList, ← List.head?_drop, ← hrest]
    rfl

theorem mul (hR : SpansLanguage text R L) (hS : SpansLanguage text S M) :
    SpansLanguage text (fun i j => ∃ k, R i k ∧ S k j) (L * M) := by
  intro i j
  constructor
  · rintro ⟨k, hfirst, hsecond⟩
    obtain ⟨first, hL, hstarts, rfl⟩ := (hR i k).1 hfirst
    obtain ⟨second, hM, hnext, rfl⟩ := (hS _ j).1 hsecond
    refine ⟨first ++ second, Language.append_mem_mul hL hM,
      append_prefix_drop_iff.2 ⟨hstarts, hnext⟩, ?_⟩
    rw [List.length_append, Nat.add_assoc]
  · rintro ⟨_, ⟨first, hL, second, hM, rfl⟩, hstarts, rfl⟩
    obtain ⟨hfirst, hsecond⟩ := append_prefix_drop_iff.1 hstarts
    refine ⟨i + first.length, (hR _ _).2 ⟨first, hL, hfirst, rfl⟩, (hS _ _).2 ⟨second, hM, hsecond, ?_⟩⟩
    rw [List.length_append, Nat.add_assoc]

theorem add (hR : SpansLanguage text R L) (hS : SpansLanguage text S M) :
    SpansLanguage text (fun i j => R i j ∨ S i j) (L + M) := by
  intro i j
  simp only [hR i j, hS i j, Language.mem_add, or_and_right, exists_or]

theorem steps (hR : SpansLanguage text R L) (n : Nat) : SpansLanguage text (Steps R n) (L ^ n) := by
  induction n with
  | zero => exact empty
  | succ n ih =>
    rw [pow_succ']
    exact hR.mul ih

end SpansLanguage

/-- A pattern without conditions describes the parts of a text that are in its language. -/
theorem spans_iff_mem_language {pattern : Pattern} (h : pattern.isUnconditional = true)
    (text : Array Char) : SpansLanguage text (pattern.Spans text) pattern.language := by
  induction pattern with
  | empty => exact .empty
  | one set => exact .one set
  | condition c => cases h
  | sequence first second ihFirst ihSecond =>
    obtain ⟨hfirst, hsecond⟩ := Bool.and_eq_true_iff.1 h
    exact (ihFirst hfirst).mul (ihSecond hsecond)
  | choice first second ihFirst ihSecond =>
    obtain ⟨hfirst, hsecond⟩ := Bool.and_eq_true_iff.1 h
    exact (ihFirst hfirst).add (ihSecond hsecond)
  | repeated least most body ih =>
    intro i j
    constructor
    · rintro ⟨n, hleast, hmost, hsteps⟩
      obtain ⟨part, hpart, hstands⟩ := ((ih h).steps n i j).1 hsteps
      exact ⟨part, ⟨n, hleast, hmost, hpart⟩, hstands⟩
    · rintro ⟨part, ⟨n, hleast, hmost, hpart⟩, hstands⟩
      exact ⟨n, hleast, hmost, ((ih h).steps n i j).2 ⟨part, hpart, hstands⟩⟩

/-- A pattern for whole texts matches the texts of its language. -/
theorem isMatch_whole_iff_mem_language {body : Pattern} (h : body.isUnconditional = true)
    {text : String} : (whole body).isMatch text = true ↔ text.toList ∈ body.language := by
  rw [isMatch_whole_iff, spans_iff_mem_language h]
  constructor
  · rintro ⟨part, hpart, hstarts, hlength⟩
    rw [Nat.zero_add] at hlength
    have hwhole : part = text.toList := hstarts.eq_of_length hlength.symm
    exact hwhole ▸ hpart
  · intro hmem
    exact ⟨text.toList, hmem, List.prefix_refl _, (Nat.zero_add _).symm⟩

/-! ## Languages of common patterns -/

theorem mem_language_repeated {least : Nat} {most : Option Nat} {body : Pattern} :
    text ∈ (Pattern.repeated least most body).language ↔
      ∃ n, least ≤ n ∧ (∀ m ∈ most, n ≤ max least m) ∧ text ∈ body.language ^ n :=
  Iff.rfl

theorem language_exactly (n : Nat) (body : Pattern) :
    (exactly n body).language = body.language ^ n := by
  ext text
  unfold exactly
  simp only [mem_language_repeated, Option.mem_some_iff, forall_eq', max_self]
  constructor
  · rintro ⟨m, hleast, hmost, hmem⟩
    rwa [Nat.le_antisymm hmost hleast] at hmem
  · intro hmem
    exact ⟨n, Nat.le_refl n, Nat.le_refl n, hmem⟩

theorem language_optional (body : Pattern) : (optional body).language = 1 + body.language := by
  ext text
  unfold optional
  simp only [mem_language_repeated, Option.mem_some_iff, forall_eq', Language.mem_add]
  constructor
  · rintro ⟨n, _, hmost, hmem⟩
    obtain rfl | rfl : n = 0 ∨ n = 1 := by omega
    · exact Or.inl hmem
    · rw [pow_one] at hmem
      exact Or.inr hmem
  · rintro (hmem | hmem)
    · exact ⟨0, by omega, by omega, hmem⟩
    · exact ⟨1, by omega, by omega, (pow_one body.language).symm ▸ hmem⟩

theorem language_oneOrMore (body : Pattern) :
    (oneOrMore body).language = body.language * body.language∗ := by
  ext text
  unfold oneOrMore
  rw [mem_language_repeated, Language.kstar_eq_iSup_pow, Language.mul_iSup, Language.mem_iSup]
  constructor
  · rintro ⟨n, hleast, _, hmem⟩
    obtain ⟨m, rfl⟩ := Nat.exists_eq_add_of_le' hleast
    exact ⟨m, pow_succ' body.language m ▸ hmem⟩
  · rintro ⟨m, hmem⟩
    exact ⟨m + 1, by omega, nofun, (pow_succ' body.language m).symm ▸ hmem⟩

theorem contains_single {c d : Char} : (CharSet.single c).contains d = true ↔ d = c := by
  have hcode : d.toNat = c.toNat ↔ d = c := Char.toNat_inj
  rw [← hcode]
  simp only [CharSet.contains, CharSet.single, CharSet.hasCode, Unicode.Ranges.contains]
  split
  case isTrue hlt => simp; omega
  case isFalse hle =>
    split
    case isTrue => simp; omega
    case isFalse => simp; omega

/-- The characters of a list and those of another set. -/
theorem contains_foldr_single {chars : List Char} {base : CharSet} {c : Char} :
    (chars.foldr (fun d set => .union (.single d) set) base).contains c = true ↔
      c ∈ chars ∨ base.contains c = true := by
  induction chars with
  | nil => simp
  | cons d chars ih =>
    have hunion : ((d :: chars).foldr (fun d set => .union (.single d) set) base).contains c =
        ((CharSet.single d).contains c ||
          (chars.foldr (fun d set => .union (.single d) set) base).contains c) := rfl
    rw [hunion, Bool.or_eq_true, contains_single, ih, List.mem_cons, or_assoc]

theorem language_char (c : Char) : (char c).language = {[c]} := by
  ext text
  unfold char
  simp only [language, mem_singles, contains_single, exists_eq_left]
  exact Iff.rfl

/-- At most so many characters of a set. -/
theorem mem_language_atMost {set : CharSet} {most : Nat} :
    text ∈ (Pattern.repeated 0 (some most) (.one set)).language ↔
      text.length ≤ most ∧ ∀ c ∈ text, set.contains c = true := by
  simp only [language, mem_singles_pow, Option.mem_some_iff, forall_eq', Nat.zero_le, true_and,
    Nat.zero_max]
  constructor
  · rintro ⟨n, hmost, rfl, hall⟩
    exact ⟨hmost, hall⟩
  · rintro ⟨hlength, hall⟩
    exact ⟨_, hlength, rfl, hall⟩

end Pattern
end RequestGate
