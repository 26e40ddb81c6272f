import RequestGate.Http.Bag
import RequestGate.Proofs.Fields
import RequestGate.Proofs.Segments
import RequestGate.Proofs.TextEncoding

/-!
# Pairs of urlencoded data

Pairs are written as a name and a value with `=` between them, one after another with `&` between
them.  Reading such a text gives the pairs back, with what each name and value is decoded to.  A bag
has every name of the pairs once: with the value itself where the name comes once, and with the array of
its values, in order, where it comes more often.

Main results:

- Theorem `Urlencoded.pairs_query`: the pairs that are written are read.
- Theorem `Urlencoded.Written.pair_escape`: names and values may be escaped byte by byte.
- Theorem `Http.Bag.get?_ofPairs`: what a bag has for a name.
-/

namespace RequestGate
namespace Urlencoded

/-! ## Pairs as they are written -/

/-- A pair as it is written: the texts before and behind its first `=`, neither with an `&`. -/
structure Written where
  name : String
  value : String
  name_noEquals : '=' ∉ name.toList
  name_noAmpersand : '&' ∉ name.toList
  value_noAmpersand : '&' ∉ value.toList

namespace Written

/-- The text of a pair. -/
def text (written : Written) : String :=
  written.name ++ "=" ++ written.value

/-- The name and the value that are read. -/
def pair (written : Written) : String × String :=
  (component (Utf8.encode written.name), component (Utf8.encode written.value))

/-- The bytes of a name, of `=` and of a value. -/
theorem encode_text (written : Written) :
    Utf8.encode written.text = Utf8.encode written.name ++ 0x3D :: Utf8.encode written.value := by
  have hequals : Utf8.encode "=" = [0x3D] := rfl
  unfold text
  rw [Utf8.encode_append, Utf8.encode_append, hequals, List.append_assoc]
  rfl

theorem encode_text_ne_nil (written : Written) : Utf8.encode written.text ≠ [] := by
  rw [encode_text]
  simp

theorem ampersand_notMem_encode_text (written : Written) : 0x26 ∉ Utf8.encode written.text := by
  rw [encode_text, List.mem_append, List.mem_cons, not_or, not_or]
  refine ⟨?_, by decide, ?_⟩
  · exact fun h => written.name_noAmpersand (Utf8.mem_of_mem_encode (by decide) h)
  · exact fun h => written.value_noAmpersand (Utf8.mem_of_mem_encode (by decide) h)

/-- A written pair is read. -/
theorem pair_encode_text (written : Written) :
    Urlencoded.pair (Utf8.encode written.text) = written.pair := by
  have hname : (0x3D : UInt8) ∉ Utf8.encode written.name := fun h =>
    written.name_noEquals (Utf8.mem_of_mem_encode (by decide) h)
  unfold Urlencoded.pair
  rw [encode_text, Pieces.cut_append hname]
  rfl

/-! ## Escaped pairs -/

/-- Bytes are escaped by no character that has a meaning in urlencoded data. -/
theorem notMem_encode {c : Char} (hc : c ∈ ['=', '&', '+']) (bytes : List UInt8) :
    c ∉ (Percent.encode bytes).toList := by
  intro h
  simp only [List.mem_cons, List.not_mem_nil, or_false] at hc
  rcases hc with rfl | rfl | rfl <;> rcases Percent.mem_encode h with h | h <;> revert h <;> decide

/-- A name and a value, each escaped. -/
def escape (name value : String) : Written where
  name := Percent.encode (Utf8.encode name)
  value := Percent.encode (Utf8.encode value)
  name_noEquals := notMem_encode (by decide) _
  name_noAmpersand := notMem_encode (by decide) _
  value_noAmpersand := notMem_encode (by decide) _

theorem component_encode (text : String) :
    component (Utf8.encode (Percent.encode (Utf8.encode text))) = text := by
  have hplus : ∀ b ∈ Utf8.encode (Percent.encode (Utf8.encode text)),
      (if b = 0x2B then 0x20 else b) = b := by
    intro b hb
    refine if_neg ?_
    rintro rfl
    have hchar : '+' ∈ (Percent.encode (Utf8.encode text)).toList :=
      Utf8.mem_of_mem_encode (by decide) hb
    exact notMem_encode (by decide) _ hchar
  unfold component
  rw [List.map_congr_left hplus, List.map_id', Percent.decode_encode, Utf8.decodeLossy_encode]

/-- Escaped names and values are read as what they were. -/
theorem pair_escape (name value : String) : (escape name value).pair = (name, value) := by
  unfold pair escape
  simp only [component_encode]

end Written

/-! ## Pairs one after another -/

/-- The text of pairs one after another. -/
def query (written : List Written) : String :=
  String.intercalate "&" (written.map Written.text)

/-- The bytes of texts that are joined. -/
theorem encode_intercalate (texts : List String) :
    Utf8.encode (String.intercalate "&" texts) = Pieces.join 0x26 (texts.map Utf8.encode) := by
  have hampersand : Utf8.encode "&" = [0x26] := rfl
  induction texts with
  | nil => rw [String.intercalate_nil]; rfl
  | cons text texts ih =>
    cases texts with
    | nil => rw [String.intercalate_singleton]; rfl
    | cons next texts =>
      rw [String.intercalate_cons_cons, Utf8.encode_append, Utf8.encode_append, ih, hampersand,
        List.append_assoc]
      rfl

/-- The pairs that are written are read, in order. -/
theorem pairs_query (written : List Written) :
    pairs (Utf8.encode (query written)) = written.map Written.pair := by
  unfold query
  rw [encode_intercalate, List.map_map]
  cases written with
  | nil => rfl
  | cons first rest =>
    have hparts : ∀ part ∈ (first :: rest).map (Utf8.encode ∘ Written.text), (0x26 : UInt8) ∉ part := by
      intro part hpart
      obtain ⟨each, _, rfl⟩ := List.mem_map.1 hpart
      exact each.ampersand_notMem_encode_text
    have hnonempty : ∀ part ∈ (first :: rest).map (Utf8.encode ∘ Written.text),
        (!part.isEmpty) = true := by
      intro part hpart
      obtain ⟨each, _, rfl⟩ := List.mem_map.1 hpart
      rw [Bool.not_eq_true', List.isEmpty_eq_false_iff]
      exact each.encode_text_ne_nil
    unfold pairs
    rw [Pieces.pieces_join (by simp) hparts, List.filter_eq_self.2 hnonempty, List.map_map]
    exact List.map_congr_left fun each _ => each.pair_encode_text

end Urlencoded

/-! ## Grouping -/

namespace Http
namespace Bag

/-- The values of a name, in order. -/
def valuesOf (name : String) (pairs : List (String × String)) : List String :=
  (pairs.filter fun pair => pair.1 = name).map Prod.snd

theorem mem_valuesOf {name value : String} {pairs : List (String × String)} :
    value ∈ valuesOf name pairs ↔ (name, value) ∈ pairs := by
  unfold valuesOf
  simp

/-- Pairs of one name have their values, and pairs of other names add none. -/
theorem valuesOf_map_append {name : String} {others : List (String × String)}
    (hothers : ∀ pair ∈ others, pair.1 ≠ name) (texts : List String) :
    valuesOf name (others ++ texts.map (name, ·)) = texts := by
  have hnone : others.filter (fun pair => pair.1 = name) = [] := by
    rw [List.filter_eq_nil_iff]
    intro pair hpair
    simpa using hothers pair hpair
  have hall : (texts.map (name, ·)).filter (fun pair => pair.1 = name) = texts.map (name, ·) := by
    rw [List.filter_eq_self]
    intro pair hpair
    obtain ⟨text, _, rfl⟩ := List.mem_map.1 hpair
    exact decide_eq_true rfl
  unfold valuesOf
  rw [List.filter_append, hnone, hall, List.nil_append, List.map_map]
  exact List.map_id texts

/-- What a bag has for a name with these values. -/
def grouped? : List String → Option Json
  | [] => none
  | [text] => some (.string text)
  | texts => some (Json.ofStrings texts)

theorem grouped?_eq_none_iff {texts : List String} : grouped? texts = none ↔ texts = [] := by
  match texts with
  | [] => exact iff_of_true rfl rfl
  | [_] => exact iff_of_false nofun nofun
  | _ :: _ :: _ => exact iff_of_false nofun nofun

theorem grouped?_ne_null (texts : List String) : grouped? texts ≠ some .null := by
  match texts with
  | [] => exact nofun
  | [_] => exact nofun
  | _ :: _ :: _ => exact nofun

/-- A further value makes an array, or one more item of it. -/
theorem grouped?_append_singleton (texts : List String) (text : String) :
    grouped? (texts ++ [text]) =
      some (((grouped? texts).map (joinValue text)).getD (.string text)) := by
  match texts with
  | [] => rfl
  | [_] => rfl
  | first :: second :: more =>
    show some (Json.array ((first :: second :: (more ++ [text])).map .string)) = _
    rw [← List.cons_append, ← List.cons_append, List.map_append]
    rfl

theorem ofPairs_append_singleton (pairs : List (String × String)) (pair : String × String) :
    ofPairs (pairs ++ [pair]) = withPair (ofPairs pairs) pair := by
  unfold ofPairs
  rw [List.foldl_append]
  rfl

/-- A bag has for every name what its values are grouped to. -/
theorem get?_ofPairs (name : String) (pairs : List (String × String)) :
    Fields.get? name (ofPairs pairs) = grouped? (valuesOf name pairs) := by
  induction pairs using List.reverseRecOn with
  | nil => rfl
  | append_singleton pairs pair ih =>
    obtain ⟨key, text⟩ := pair
    have hvalues : valuesOf name (pairs ++ [(key, text)]) =
        valuesOf name pairs ++ if key = name then [text] else [] := by
      unfold valuesOf
      rw [List.filter_append, List.map_append]
      by_cases h : key = name <;> simp [h]
    rw [ofPairs_append_singleton, hvalues]
    unfold withPair
    by_cases h : key = name
    · subst h
      rw [if_pos rfl, grouped?_append_singleton, ← ih]
      cases hfound : Fields.get? key (ofPairs pairs) with
      | some found => simp [Fields.get?_update, hfound]
      | none => simp [Fields.get?_append, Fields.get?_cons, hfound]
    · rw [if_neg h, List.append_nil, ← ih]
      cases Fields.get? key (ofPairs pairs) with
      | some found => simp [Fields.get?_update, Ne.symm h]
      | none => simp [Fields.get?_append, Fields.get?_cons, h]

end Bag
end Http
end RequestGate
