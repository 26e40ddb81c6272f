import RequestGate.Proofs.Urlencoding

/-!
# Grouping without loss

The bag of urlencoded data holds every name of the pairs once, where the name first occurs.  A name that
occurs once has its value as a text, and one that occurs more often has the array of its values as texts,
in order.  Reading the texts of the bag again gives for every name the values that the pairs have.

Main results:

- Theorem `Http.Bag.names_ofPairs`: the names of a bag are those of the pairs, in the order of their first
  occurrences.
- Theorem `Http.Bag.texts?_of_grouped?`: the texts of a value are the values that it was made of.
- Theorem `Http.Bag.ofUrlencoded_isGroupingOf`: what the bag of any bytes holds.
-/

namespace RequestGate
namespace Http
namespace Bag

/-! ## Names -/

/-- A pair adds its name when it is new. -/
theorem names_withPair (bag : Bag) (pair : String × String) :
    Fields.names (withPair bag pair) =
      if pair.1 ∈ Fields.names bag then Fields.names bag else Fields.names bag ++ [pair.1] := by
  unfold withPair
  cases hfound : Fields.get? pair.1 bag with
  | some found =>
    have hknown : pair.1 ∈ Fields.names bag := by
      by_contra hnew
      rw [Fields.get?_eq_none_iff.2 hnew] at hfound
      cases hfound
    rw [if_pos hknown]
    exact Fields.names_update _ _ _
  | none =>
    rw [if_neg (Fields.get?_eq_none_iff.1 hfound)]
    exact List.map_append

/-- The names of a bag are those of its pairs, each where it first occurs. -/
theorem names_ofPairs (pairs : List (String × String)) :
    Fields.names (ofPairs pairs) = (pairs.map Prod.fst).eraseDups := by
  rw [← Fields.names_ofList]
  induction pairs using List.reverseRecOn with
  | nil => rfl
  | append_singleton pairs pair ih =>
    rw [ofPairs_append_singleton, names_withPair, ih, Fields.ofList_append_singleton,
      Fields.names_insert]

theorem distinct_ofPairs (pairs : List (String × String)) : Fields.Distinct (ofPairs pairs) := by
  unfold Fields.Distinct
  rw [names_ofPairs]
  exact Fields.nodup_eraseDups _

/-! ## Values -/

/-- The texts that a value holds, when it is a text or an array of texts. -/
def texts? : Json → Option (List String)
  | .string text => some [text]
  | .array items => items.mapM Json.asString?
  | _ => none

theorem mapM_asString? (texts : List String) :
    (texts.map Json.string).mapM Json.asString? = some texts := by
  induction texts with
  | nil => rfl
  | cons text texts ih =>
    rw [List.map_cons, List.mapM_cons, ih]
    rfl

/-- What texts are grouped to holds these texts. -/
theorem texts?_of_grouped? {texts : List String} {value : Json} (h : grouped? texts = some value) :
    texts? value = some texts := by
  match texts with
  | [] => cases h
  | [text] =>
    cases h
    rfl
  | first :: second :: more =>
    cases h
    exact mapM_asString? (first :: second :: more)

/-- Two texts and more are grouped to an array. -/
theorem grouped?_of_two_le {texts : List String} (h : 2 ≤ texts.length) :
    grouped? texts = some (.array (texts.map .string)) := by
  match texts with
  | [] => exact absurd h (by decide)
  | [_] => exact absurd h (Nat.not_succ_le_self 1)
  | _ :: _ :: _ => rfl

/-! ## Bags of pairs -/

/-- A bag holds the values of pairs, by name. -/
structure IsGroupingOf (bag : Bag) (pairs : List (String × String)) : Prop where
  /-- Every name of the pairs stands once, in the order of the first occurrences. -/
  names_eq : Fields.names bag = (pairs.map Prod.fst).eraseDups
  single : ∀ name text, valuesOf name pairs = [text] →
    Fields.get? name bag = some (.string text)
  repeated : ∀ name, 2 ≤ (valuesOf name pairs).length →
    Fields.get? name bag = some (.array ((valuesOf name pairs).map .string))
  /-- Every value of the bag holds the values of its name, all of them and in order, and no others. -/
  texts_eq : ∀ entry ∈ bag, texts? entry.2 = some (valuesOf entry.1 pairs)

theorem ofPairs_isGroupingOf (pairs : List (String × String)) :
    IsGroupingOf (ofPairs pairs) pairs where
  names_eq := names_ofPairs pairs
  single name text h := by rw [get?_ofPairs, h, grouped?]
  repeated name h := by rw [get?_ofPairs, grouped?_of_two_le h]
  texts_eq := by
    rintro ⟨name, value⟩ hentry
    have hget := (Fields.get?_eq_some_iff_mem (distinct_ofPairs pairs)).2 hentry
    rw [get?_ofPairs] at hget
    exact texts?_of_grouped? hget

/-- The bag of any bytes groups the pairs that are read from them, without loss. -/
theorem ofUrlencoded_isGroupingOf (bytes : List UInt8) :
    IsGroupingOf (ofUrlencoded bytes) (Urlencoded.pairs bytes) :=
  ofPairs_isGroupingOf (Urlencoded.pairs bytes)

end Bag
end Http
end RequestGate
