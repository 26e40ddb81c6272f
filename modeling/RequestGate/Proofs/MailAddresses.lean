import Mathlib.Data.Bool.AllAny
import RequestGate.Proofs.Segments
import RequestGate.Proofs.TextFormats

/-!
# Mail addresses

A rule for mail addresses accepts a name, an `@` and a domain.  The name consists of letters, digits and
some other characters; the domain is cut at its points into at least two labels.  The pattern says so
with repetitions inside each other: here its language is that of the texts whose pieces are labels.

Main results:

- Theorem `Format.mem_language_label`: the pattern of labels describes them.
- Theorem `Format.mem_pointed_pow`: texts joined by points are the pieces between the points.
- Theorem `Format.mem_language_domain`, `Format.mem_language_email`: domains and addresses.
- Theorem `Checker.accepts_email_iff`: what a rule for mail addresses accepts.
-/

namespace RequestGate

namespace Format

open Computability Pattern Pieces

/-! ## Addresses -/

/-- A character of the name in an address. -/
def IsNameChar (c : Char) : Prop :=
  c.isAlphanum = true ∨ c ∈ ".!#$%&'*+/=?^_`\x7b|\x7d~-".toList

instance (c : Char) : Decidable (IsNameChar c) :=
  inferInstanceAs (Decidable (_ ∨ _))

/-- A label of a domain: 1 to 63 letters, digits and hyphens, with no hyphen at its ends. -/
structure IsLabel (label : List Char) : Prop where
  least : 1 ≤ label.length
  most : label.length ≤ 63
  chars : ∀ c ∈ label, c.isAlphanum = true ∨ c = '-'
  first : label.head? ≠ some '-'
  last : label.getLast? ≠ some '-'

/-- A domain: at least two labels between points. -/
structure IsDomain (domain : List Char) : Prop where
  labels : 2 ≤ (pieces '.' domain).length
  isLabel : ∀ label ∈ pieces '.' domain, IsLabel label

/-- A mail address: a name and a domain before and behind its only `@`. -/
structure IsAddress (text : List Char) : Prop where
  once : text.count '@' = 1
  parts : ∃ name domain, text = name ++ '@' :: domain ∧ (name ≠ [] ∧ ∀ c ∈ name, IsNameChar c) ∧
    IsDomain domain

/-! ## Characters -/

theorem contains_alphanumeric {c : Char} : alphanumeric.contains c = true ↔ c.isAlphanum = true := by
  have hcode : c.isAlphanum = true ↔ (65 ≤ c.toNat ∧ c.toNat ≤ 90 ∨ 97 ≤ c.toNat ∧ c.toNat ≤ 122) ∨
      48 ≤ c.toNat ∧ c.toNat ≤ 57 := by
    have hclasses : c.isAlphanum = (decide (c.val ≥ 'A'.val ∧ c.val ≤ 'Z'.val) ||
        decide (c.val ≥ 'a'.val) && decide (c.val ≤ 'z'.val) ||
        decide (c.val ≥ '0'.val) && decide (c.val ≤ '9'.val)) := rfl
    rw [hclasses]
    simp only [Bool.or_eq_true, Bool.and_eq_true, decide_eq_true_eq, UInt32.le_iff_toNat_le,
      ge_iff_le]
    exact Iff.rfl
  rw [hcode]
  simp only [CharSet.contains, alphanumeric, CharSet.hasCode, Unicode.Ranges.contains]
  grind

theorem contains_hyphenated {c : Char} :
    (CharSet.union alphanumeric (.single '-')).contains c = true ↔ c.isAlphanum = true ∨ c = '-' := by
  have hunion : (CharSet.union alphanumeric (.single '-')).contains c =
      (alphanumeric.contains c || (CharSet.single '-').contains c) := rfl
  rw [hunion, Bool.or_eq_true, contains_alphanumeric, contains_single]

/-- The pattern of names describes characters of names, at least one. -/
theorem mem_language_name {text : List Char} :
    text ∈ (oneOrMore localChar).language ↔ text ≠ [] ∧ ∀ c ∈ text, IsNameChar c := by
  have hchar : localChar.language = singles IsNameChar := by
    unfold localChar language
    refine singles_congr fun c => ?_
    rw [contains_foldr_single, contains_alphanumeric, or_comm]
    rfl
  rw [language_oneOrMore, hchar, mem_singles_mul_kstar]

/-! ## Labels -/

/-- The texts of one letter or digit. -/
def letters : Language Char :=
  singles fun c => c.isAlphanum = true

theorem ne_hyphen_of_isAlphanum {c : Char} (h : c.isAlphanum = true) : c ≠ '-' := by
  rintro rfl
  exact absurd h (by decide)

theorem isLabel_singleton {c : Char} (hc : c.isAlphanum = true) : IsLabel [c] where
  least := by simp
  most := by simp
  chars := by simp [hc]
  first := by simpa using ne_hyphen_of_isAlphanum hc
  last := by simpa using ne_hyphen_of_isAlphanum hc

/-- Two letters or digits are the ends of a label. -/
theorem isLabel_cons_append_iff {first last : Char} {middle : List Char} :
    IsLabel (first :: (middle ++ [last])) ↔ first.isAlphanum = true ∧ last.isAlphanum = true ∧
      middle.length ≤ 61 ∧ ∀ c ∈ middle, c.isAlphanum = true ∨ c = '-' := by
  have hend : (first :: (middle ++ [last])).getLast? = some last := by
    rw [← List.cons_append, List.getLast?_concat]
  have hlength : (first :: (middle ++ [last])).length = middle.length + 2 := by
    rw [List.length_cons, List.length_append, List.length_singleton]
  constructor
  · intro h
    have hfirst : first ≠ '-' := by simpa using h.first
    have hlast : last ≠ '-' := by simpa [hend] using h.last
    have hmost := h.most
    obtain ⟨hhead, hrest⟩ := List.forall_mem_cons.1 h.chars
    obtain ⟨hmiddle, htail⟩ := List.forall_mem_append.1 hrest
    exact ⟨hhead.resolve_right hfirst, (htail last List.mem_cons_self).resolve_right hlast, by omega,
      hmiddle⟩
  · rintro ⟨hfirst, hlast, hmost, hmiddle⟩
    constructor
    · omega
    · omega
    · refine List.forall_mem_cons.2 ⟨Or.inl hfirst, List.forall_mem_append.2 ⟨hmiddle, ?_⟩⟩
      simp [hlast]
    · simpa using ne_hyphen_of_isAlphanum hfirst
    · simpa [hend] using ne_hyphen_of_isAlphanum hlast

/-- The pattern of labels: a letter or digit, and possibly more up to another one. -/
theorem language_label : label.language = letters *
    (1 + (Pattern.repeated 0 (some 61) (.one (.union alphanumeric (.single '-')))).language *
      letters) := by
  have hletters : (Pattern.one alphanumeric).language = letters :=
    singles_congr fun c => contains_alphanumeric
  rw [← hletters]
  show (Pattern.one alphanumeric).language * (optional _).language = _
  rw [language_optional]
  rfl

/-- The pattern of labels describes them. -/
theorem mem_language_label {text : List Char} : text ∈ label.language ↔ IsLabel text := by
  rw [language_label, Language.mem_mul]
  constructor
  · rintro ⟨_, ⟨first, hfirst, rfl⟩, rest, rfl | ⟨middle, hmiddle, _, ⟨last, hlast, rfl⟩, rfl⟩, rfl⟩
    · exact isLabel_singleton hfirst
    · obtain ⟨hlength, hall⟩ := mem_language_atMost.1 hmiddle
      exact isLabel_cons_append_iff.2
        ⟨hfirst, hlast, hlength, fun c hc => contains_hyphenated.1 (hall c hc)⟩
  · intro h
    cases text with
    | nil => exact absurd h.least (by simp)
    | cons first rest =>
      induction rest using List.reverseRecOn with
      | nil =>
        have hfirst : first ≠ '-' := by simpa using h.first
        exact ⟨[first], ⟨first, (h.chars first List.mem_cons_self).resolve_right hfirst, rfl⟩, [],
          Or.inl rfl, rfl⟩
      | append_singleton middle last _ =>
        obtain ⟨hfirst, hlast, hlength, hall⟩ := isLabel_cons_append_iff.1 h
        have hmiddle := mem_language_atMost.2 ⟨hlength, fun c hc => contains_hyphenated.2 (hall c hc)⟩
        exact ⟨[first], ⟨first, hfirst, rfl⟩, middle ++ [last],
          Or.inr (Language.append_mem_mul hmiddle ⟨last, hlast, rfl⟩), rfl⟩

/-! ## Domains -/

/-- Texts of a language without points, each after a point but the first. -/
theorem mem_pointed_pow {L : Language Char} (hL : ∀ part ∈ L, '.' ∉ part) {n : Nat} {text : List Char} :
    text ∈ L * ({['.']} * L) ^ n ↔
      (pieces '.' text).length = n + 1 ∧ ∀ part ∈ pieces '.' text, part ∈ L := by
  induction n generalizing text with
  | zero =>
    rw [pow_zero, mul_one]
    constructor
    · intro h
      rw [pieces_of_notMem (hL text h)]
      exact ⟨rfl, by simpa using h⟩
    · rintro ⟨hlength, hall⟩
      obtain ⟨part, hpart⟩ := List.length_eq_one_iff.1 hlength
      have htext : part = text := by
        have hjoin := join_pieces '.' text
        rwa [hpart] at hjoin
      rw [hpart, htext] at hall
      exact hall text List.mem_cons_self
  | succ n ih =>
    rw [pow_succ', ← mul_assoc, ← mul_assoc, mul_assoc _ L, Language.mem_mul]
    constructor
    · rintro ⟨_, ⟨first, hfirst, _, rfl, rfl⟩, rest, hrest, rfl⟩
      obtain ⟨hlength, hall⟩ := ih.1 hrest
      rw [List.append_assoc, List.singleton_append, pieces_append_cons (hL first hfirst)]
      exact ⟨congrArg (· + 1) hlength, List.forall_mem_cons.2 ⟨hfirst, hall⟩⟩
    · rintro ⟨hlength, hall⟩
      have hjoin := join_pieces '.' text
      match hpieces : pieces '.' text with
      | [] | [_] => rw [hpieces] at hlength; simp at hlength
      | first :: next :: more =>
        rw [hpieces] at hlength hall hjoin
        obtain ⟨hfirst, hmore⟩ := List.forall_mem_cons.1 hall
        have hrest : pieces '.' (join '.' (next :: more)) = next :: more :=
          pieces_join (List.cons_ne_nil _ _) fun part hpart => hL part (hmore part hpart)
        refine ⟨first ++ ['.'], Language.append_mem_mul hfirst rfl, join '.' (next :: more), ?_, ?_⟩
        · rw [ih, hrest]
          exact ⟨Nat.succ.inj hlength, hmore⟩
        · rw [← hjoin, join, List.append_assoc, List.singleton_append]

theorem point_notMem_of_isLabel {label : List Char} (h : IsLabel label) : '.' ∉ label := by
  intro hmem
  rcases h.chars '.' hmem with hletter | hhyphen
  · exact absurd hletter (by decide)
  · exact absurd hhyphen (by decide)

/-- A label and then labels, each after a point, are a domain. -/
theorem mem_language_domain {text : List Char} :
    text ∈ (Pattern.sequence label (oneOrMore (.sequence (char '.') label))).language ↔
      IsDomain text := by
  have hlabel : ∀ part ∈ label.language, '.' ∉ part := fun part hpart =>
    point_notMem_of_isLabel (mem_language_label.1 hpart)
  have hdomain : (Pattern.sequence label (oneOrMore (.sequence (char '.') label))).language =
      ⨆ n : Nat, label.language * ({['.']} * label.language) ^ (n + 1) := by
    simp only [language, language_oneOrMore, language_char, Language.kstar_eq_iSup_pow,
      Language.mul_iSup, pow_succ']
  rw [hdomain, Language.mem_iSup]
  simp only [mem_pointed_pow hlabel, mem_language_label]
  constructor
  · rintro ⟨n, hlength, hall⟩
    exact ⟨by omega, hall⟩
  · intro h
    exact ⟨(pieces '.' text).length - 2, by have := h.labels; omega, h.isLabel⟩

/-! ## Whole addresses -/

theorem at_notMem_of_isDomain {domain : List Char} (h : IsDomain domain) : '@' ∉ domain := by
  intro hmem
  obtain ⟨label, hlabel, hat⟩ := exists_mem_pieces hmem (by decide : '@' ≠ '.')
  rcases (h.isLabel label hlabel).chars '@' hat with hletter | hhyphen
  · exact absurd hletter (by decide)
  · exact absurd hhyphen (by decide)

/-- A name and a domain around an `@` are an address: neither has an `@` itself. -/
theorem isAddress_iff {text : List Char} :
    IsAddress text ↔ ∃ name domain, text = name ++ '@' :: domain ∧
      (name ≠ [] ∧ ∀ c ∈ name, IsNameChar c) ∧ IsDomain domain := by
  refine ⟨IsAddress.parts, fun hparts => ⟨?_, hparts⟩⟩
  obtain ⟨name, domain, rfl, ⟨_, hname⟩, hdomain⟩ := hparts
  have hbefore : '@' ∉ name := fun hmem => absurd (hname '@' hmem) (by decide)
  rw [List.count_append, List.count_cons_self, List.count_eq_zero.2 hbefore,
    List.count_eq_zero.2 (at_notMem_of_isDomain hdomain)]

/-- The pattern of mail addresses describes them. -/
theorem mem_language_email {text : List Char} :
    text ∈ (sequenceAll [oneOrMore localChar, char '@', label,
      oneOrMore (.sequence (char '.') label)]).language ↔ IsAddress text := by
  have hemail : (sequenceAll [oneOrMore localChar, char '@', label,
      oneOrMore (.sequence (char '.') label)]).language = (oneOrMore localChar).language *
        ({['@']} * (Pattern.sequence label (oneOrMore (.sequence (char '.') label))).language) := by
    rw [← language_char]
    rfl
  rw [hemail, isAddress_iff, Language.mem_mul]
  constructor
  · rintro ⟨name, hname, _, ⟨_, rfl, domain, hdomain, rfl⟩, rfl⟩
    exact ⟨name, domain, rfl, mem_language_name.1 hname, mem_language_domain.1 hdomain⟩
  · rintro ⟨name, domain, rfl, hname, hdomain⟩
    exact ⟨name, mem_language_name.2 hname, '@' :: domain,
      ⟨['@'], rfl, domain, mem_language_domain.2 hdomain, rfl⟩, rfl⟩

end Format

namespace Checker

open Format

/-- A rule for mail addresses accepts the texts that are addresses, and nothing else. -/
theorem accepts_email_iff {checker : Checker} {rule : Rule}
    (hkind : rule.kind.bind Kind.ofName? = some .email) (value : Json) :
    checker.check rule value = .ok () ↔ ∃ text, value = .string text ∧ IsAddress text.toList := by
  rw [check_eq_checkKind hkind]
  simp only [← mem_language_email]
  exact checkFormat_whole_eq_ok_iff rfl

/-- An address with a hyphen inside a label, and with all kinds of characters in its name. -/
theorem isAddress_ann : IsAddress "ann.o'hara+x=1@mail-2.example.org".toList := by
  have hpieces : Pieces.pieces '.' "mail-2.example.org".toList =
      ["mail-2".toList, "example".toList, "org".toList] := by decide
  refine isAddress_iff.2 ⟨"ann.o'hara+x=1".toList, "mail-2.example.org".toList, rfl,
    ⟨by decide, List.all_iff_forall_prop.1 (by decide)⟩, ?_, ?_⟩
  · rw [hpieces]
    decide
  · rw [hpieces]
    intro label hlabel
    simp only [List.mem_cons, List.not_mem_nil, or_false] at hlabel
    rcases hlabel with rfl | rfl | rfl <;>
      exact ⟨by decide, by decide, List.all_iff_forall_prop.1 (by decide), by decide, by decide⟩

/-- A rule for mail addresses accepts one with a hyphen inside a label, and it refuses a second `@`. -/
theorem ann_accepts_email_iff :
    (Checker.fresh false).check ⟨some "email", true, []⟩
      (.string "ann.o'hara+x=1@mail-2.example.org") = .ok () ∧
    (Checker.fresh false).check ⟨some "email", true, []⟩ (.string "ann@home@example.org") ≠ .ok () := by
  refine ⟨(accepts_email_iff rfl _).2 ⟨_, rfl, isAddress_ann⟩, fun haccepts => ?_⟩
  obtain ⟨text, htext, haddress⟩ := (accepts_email_iff rfl _).1 haccepts
  cases htext
  exact absurd haddress.once (by decide)

end Checker
end RequestGate
