import RequestGate.Proofs.Lowering
import RequestGate.Proofs.MissingFields
import RequestGate.Proofs.RelatedDescriptions
import RequestGate.Proofs.TextEncoding

/-!
# The case of header names

Header names are compared without regard to the case of ASCII letters.  Compilation takes the names of
header parameters to lower case, and a request takes those of its header fields, each by itself.  So
neither a description nor a request is told apart from one that writes such names in another case:
parameters whose names fall together replace each other in the same order, and the values of a name are
joined in their order whatever case each of them was sent in.

Main results:

- Theorem `Http.Headers.ofSent?_congr`: header fields are read alike in every case.
- Theorem `Http.Headers.values_of_ofSent?`: the values of a name are those that are sent under it in any
  case.
- Theorem `LocationRules.withParameter_alike`: a header parameter is added alike in every case.
- Theorem `Http.ignoresHeaderCase`: the case of header names has no effect on what is decided.
-/

namespace RequestGate

open Fallible (Alike)

/-! ## Texts in another case -/

namespace Case

/-- Two texts differ at most in the case of ASCII letters. -/
def SameButCase (first second : String) : Prop :=
  first.toList.map Char.toLower = second.toList.map Char.toLower

instance (first second : String) : Decidable (SameButCase first second) :=
  inferInstanceAs (Decidable (_ = _))

theorem lowerAscii_eq_toLower (c : Char) : lowerAscii c = c.toLower := by
  by_cases hupper : 'A' ≤ c ∧ c ≤ 'Z'
  · have hlow : c.toLower = ⟨c.val + 32, _⟩ := dif_pos hupper
    have hgreatest : c.val.toNat ≤ 90 := hupper.2
    rw [hlow]
    apply Char.toNat_inj.1
    rw [toNat_lowerAscii hupper]
    show c.val.toNat + 32 = (c.val + 32).toNat
    rw [UInt32.toNat_add]
    show c.val.toNat + 32 = (c.val.toNat + 32) % 2 ^ 32
    omega
  · have hkept : lowerAscii c = c := if_neg hupper
    have hlow : c.toLower = c := dif_neg hupper
    rw [hkept, hlow]

/-- Texts that differ in case only have the same lower case, and no others have. -/
theorem lowerAsciiText_eq_iff {first second : String} :
    lowerAsciiText first = lowerAsciiText second ↔ SameButCase first second := by
  unfold lowerAsciiText SameButCase
  rw [String.ofList_inj, funext lowerAscii_eq_toLower]

theorem SameButCase.length_eq {first second : String} (h : SameButCase first second) :
    first.length = second.length := by
  have hlength := congrArg List.length h
  rwa [List.length_map, List.length_map, String.length_toList, String.length_toList] at hlength

end Case

/-! ## Header fields -/

namespace Http

/-- A letter in another case is a token character as well. -/
theorem isTokenChar_toLower (c : Char) : isTokenChar c.toLower = isTokenChar c := by
  by_cases hupper : 'A' ≤ c ∧ c ≤ 'Z'
  · have hcode := Case.toNat_lowerAscii hupper
    rw [Case.lowerAscii_eq_toLower] at hcode
    have hleast : 65 ≤ c.toNat := hupper.1
    have hgreatest : c.toNat ≤ 90 := hupper.2
    have hlower : c.toLower.isLower = true := by
      unfold Char.isLower
      rw [Bool.and_eq_true, decide_eq_true_iff, decide_eq_true_iff]
      constructor
      · show 97 ≤ c.toLower.toNat
        omega
      · show c.toLower.toNat ≤ 122
        omega
    have hcapital : c.isUpper = true := decide_eq_true hupper
    unfold isTokenChar Char.isAlphanum Char.isAlpha
    simp [hlower, hcapital]
  · have hkept : c.toLower = c := dif_neg hupper
    rw [hkept]

/-- Whether a text is a token does not depend on its case. -/
theorem isToken_congr {first second : String} (h : Case.SameButCase first second) :
    isToken first = isToken second := by
  have hall : ∀ text : String,
      text.toList.all isTokenChar = (text.toList.map Char.toLower).all isTokenChar := by
    intro text
    rw [List.all_map]
    exact congrArg text.toList.all (funext fun c => (isTokenChar_toLower c).symm)
  have hempty : first = "" ↔ second = "" := by
    rw [← String.length_eq_zero_iff, ← String.length_eq_zero_iff, h.length_eq]
  unfold isToken
  rw [hall first, hall second, h]
  simp only [ne_eq, hempty]

/-- Header fields as they are sent: names in any case, each with the bytes of a value. -/
abbrev SentHeaders := List (String × List UInt8)

namespace SentHeaders

/-- The same values are sent, under names that differ at most in case. -/
def SameButCase (first second : SentHeaders) : Prop :=
  List.Forall₂ (fun field other => Case.SameButCase field.1 other.1 ∧ field.2 = other.2) first second

/-- The values that are sent under a name in any case, in order. -/
def values (name : String) (sent : SentHeaders) : List (List UInt8) :=
  (sent.filter fun field => Case.SameButCase field.1 name).map Prod.snd

end SentHeaders

namespace Headers

/-- Reads header fields as they are sent. -/
def ofSent? (sent : SentHeaders) : Option Headers :=
  sent.mapM fun field => field? (Utf8.encode field.1) field.2

/-- The name of a header field is read in lower case. -/
theorem field?_encode (name : String) (value : List UInt8) :
    field? (Utf8.encode name) value =
      if isToken name && name.length ≤ maxNameLength && value.all isValueByte then
        some (Case.lowerAsciiText name, value)
      else none := by
  unfold field?
  rw [Utf8.decode?_encode]
  rfl

/-- A header field is read alike under a name in another case. -/
theorem field?_congr {name other : String} (h : Case.SameButCase name other) (value : List UInt8) :
    field? (Utf8.encode name) value = field? (Utf8.encode other) value := by
  rw [field?_encode, field?_encode, isToken_congr h, h.length_eq, Case.lowerAsciiText_eq_iff.2 h]

/-- Header fields are read alike under names in another case. -/
theorem ofSent?_congr {sent other : SentHeaders} (h : sent.SameButCase other) :
    ofSent? sent = ofSent? other := by
  unfold ofSent?
  induction h with
  | nil => rfl
  | cons hhead _ ih =>
    rw [List.mapM_cons, List.mapM_cons, field?_congr hhead.1, hhead.2, ih]

/-- Header fields that are read have the names in lower case and the values as they are sent. -/
theorem eq_map_of_ofSent? {sent : SentHeaders} {headers : Headers} (h : ofSent? sent = some headers) :
    headers = sent.map fun field => (Case.lowerAsciiText field.1, field.2) := by
  have hfields := (Fallible.forall₂_of_mapM_eq_some h).imp fun field read hread => by
    rw [field?_encode] at hread
    split at hread
    · exact Option.some.inj hread
    · cases hread
  have hmap := Fallible.map_eq_map_of_forall₂ (g := id) hfields
  rw [hmap, List.map_id]

/-- The values of a name are those that are sent under it in any case. -/
theorem values_of_ofSent? {sent : SentHeaders} {headers : Headers} (h : ofSent? sent = some headers)
    (name : String) : values (Case.lowerAsciiText name) headers = sent.values name := by
  rw [eq_map_of_ofSent? h]
  unfold values SentHeaders.values
  rw [List.filter_map, List.map_map]
  simp only [Function.comp_def, Case.lowerAsciiText_eq_iff]

end Headers

namespace Bag

/-- The values of header fields with one name as a text: one after another with commas between them, and
nothing where there are none. -/
def joined? : List (List UInt8) → Option Json
  | [] => none
  | values => some (.string (String.intercalate ", " (values.map Utf8.decodeLossy)))

/-- A bag has every name of header fields once. -/
theorem distinct_ofHeaders (headers : Headers) : (ofHeaders headers).Distinct := by
  unfold Fields.Distinct Fields.names ofHeaders
  rw [List.map_map]
  have hid : (Prod.fst ∘ fun name => (name, Json.string (String.intercalate ", "
      ((Headers.values name headers).map Utf8.decodeLossy)))) = id := rfl
  rw [hid, List.map_id]
  exact Fields.nodup_eraseDups _

/-- A bag has for a name the values of its header fields, joined in order. -/
theorem get?_ofHeaders (name : String) (headers : Headers) :
    Fields.get? name (ofHeaders headers) = joined? (Headers.values name headers) := by
  have hvalues : name ∈ headers.map Prod.fst ↔ Headers.values name headers ≠ [] := by
    unfold Headers.values
    simp [List.filter_eq_nil_iff]
  unfold ofHeaders
  rw [Fields.get?_map_names]
  simp only [List.mem_eraseDups, hvalues]
  cases hfound : Headers.values name headers with
  | nil => rfl
  | cons => rfl

end Bag
end Http

/-! ## Header parameters -/

/-- Two faults are of one kind and about the same, but for the case of the name of a field. -/
inductive ParameterFault.SameButCase : ParameterFault → ParameterFault → Prop
  | refl (fault : ParameterFault) : SameButCase fault fault
  | formatShape {field other : String} (h : Case.SameButCase field other) :
    SameButCase (.formatShape field) (.formatShape other)
  | optionsShape {field other : String} (h : Case.SameButCase field other) :
    SameButCase (.optionsShape field) (.optionsShape other)
  | overrideShape {field other : String} (h : Case.SameButCase field other) (key : String) :
    SameButCase (.overrideShape field key) (.overrideShape other key)

namespace Rule

variable {field other : String}

theorem formatText_alike (h : Case.SameButCase field other) (format : Option Json) :
    Alike ParameterFault.SameButCase (formatText field format) (formatText other format) := by
  unfold formatText
  split
  · exact .ok none
  · exact .ok none
  · exact .ok _
  · exact .error (.formatShape h)

theorem optionMembers_alike (h : Case.SameButCase field other) (options : Option Json) :
    Alike ParameterFault.SameButCase (optionMembers field options) (optionMembers other options) := by
  unfold optionMembers
  split
  · exact .ok []
  · exact .ok []
  · exact .ok _
  · exact .error (.optionsShape h)

theorem withOption_alike (h : Case.SameButCase field other) (rule : Rule) (entry : String × Json) :
    Alike ParameterFault.SameButCase (withOption field rule entry) (withOption other rule entry) := by
  unfold withOption
  split
  · split
    · exact .ok _
    · exact .error (.overrideShape h "type")
  · split
    · split
      · exact .ok _
      · exact .error (.overrideShape h "required")
    · exact .ok _

/-- The name of a field shows in the faults of its rule only. -/
theorem build_alike (h : Case.SameButCase field other) (declared : Option String) (required : Bool)
    (format options : Option Json) :
    Alike ParameterFault.SameButCase (build declared required format options field)
      (build declared required format options other) := by
  unfold build
  refine (formatText_alike h format).bind fun text => ?_
  refine (optionMembers_alike h options).bind fun members => ?_
  have hmembers : List.Forall₂ Eq members members := List.forall₂_same.2 fun _ _ => rfl
  refine Fallible.alike_foldlM (fun rule entry _ hentry => ?_) hmembers _
  rw [← hentry]
  exact withOption_alike h rule entry

end Rule

/-- Two parameters are the same, or they are header parameters that differ in the case of their names. -/
def Parameter.SameButHeaderCase (first second : Parameter) : Prop :=
  first = second ∨ first.location = some Location.header.name ∧ ∃ name other,
    first.name = some name ∧ Case.SameButCase name other ∧ second = { first with name := some other }

/-- Adding a header parameter does not depend on the case of its name, apart from the faults that name
it. -/
theorem LocationRules.withParameter_alike {first second : Parameter} (h : first.SameButHeaderCase second)
    (rules : LocationRules) :
    Alike ParameterFault.SameButCase (withParameter rules first) (withParameter rules second) := by
  rcases h with rfl | ⟨hlocation, name, other, hname, hcase, rfl⟩
  · exact .refl .refl _
  · have hother : withParameter rules { first with name := some other } =
        (first.ownRule .header other).map fun rule =>
          rules.modify (·.insert (fieldKey .header other) rule) .header :=
      withParameter_eq_map rfl hlocation (by decide)
    have hkey : fieldKey .header name = fieldKey .header other := Case.lowerAsciiText_eq_iff.2 hcase
    rw [withParameter_eq_map hname hlocation (by decide), hother, hkey]
    exact ((Rule.build_alike hcase _ _ _ _).map _).map _

/-- Two descriptions are the same but for the case of the names of header parameters. -/
abbrev Description.SameButHeaderCase (first second : Description) : Prop :=
  first.RelatedBy Parameter.SameButHeaderCase second

/-! ## What is decided -/

namespace Http

/-- What a gate decides about a request of which these header fields are sent, and what is counted; none
where that is no request. -/
def decisionOn? {σ : Type} [Validator σ] (gate : Gate σ) (limit : Nat) (method target : String)
    (sent : SentHeaders) (body : List UInt8) : Option (Admission × List Event) := do
  let headers ← Headers.ofSent? sent
  let request ← Request.ofParts? method target headers body
  return admission gate limit request

/-- The case of header names makes no difference, neither in a description nor in a request. -/
structure IgnoresHeaderCase (first second : Description) (sent other : SentHeaders) : Prop where
  /-- The descriptions compile to the same, or both fail with the same kind of error in the same
  operation. -/
  compiled : Alike (CompileError.RelatedBy ParameterFault.SameButCase) first.compile second.compile
  /-- The bags of the header fields are the same. -/
  bags : (Headers.ofSent? sent).map Bag.ofHeaders = (Headers.ofSent? other).map Bag.ofHeaders
  /-- A bag has every name once, and under the key that a header parameter of any name has in rules it
  has all values that are sent under that name, joined in order. -/
  joined : ∀ headers, Headers.ofSent? sent = some headers → (Bag.ofHeaders headers).Distinct ∧
    ∀ name, Fields.get? (LocationRules.fieldKey .header name) (Bag.ofHeaders headers) =
      Bag.joined? (sent.values name)
  /-- Whatever the validator, a gate starts for both descriptions or is refused for both, and decides
  the same about every request. -/
  decided : ∀ compiled otherCompiled, first.compile = .ok compiled →
    second.compile = .ok otherCompiled → ∀ {σ : Type} [Validator σ] (validator : σ) (mode : Mode)
      (limit : Nat) (method target : String) (body : List UInt8),
      (Gate.start compiled validator mode).map (decisionOn? · limit method target sent body) =
        (Gate.start otherCompiled validator mode).map (decisionOn? · limit method target other body)

theorem ignoresHeaderCase {first second : Description} (h : first.SameButHeaderCase second)
    {sent other : SentHeaders} (hsent : sent.SameButCase other) :
    IgnoresHeaderCase first second sent other := by
  have hcompiled := h.compile_alike fun rules _ _ hsame => LocationRules.withParameter_alike hsame rules
  have hread := Headers.ofSent?_congr hsent
  constructor
  case compiled => exact hcompiled
  case bags => rw [hread]
  case joined =>
    intro headers hheaders
    refine ⟨Bag.distinct_ofHeaders headers, fun name => ?_⟩
    rw [← Headers.values_of_ofSent? hheaders]
    exact Bag.get?_ofHeaders _ headers
  case decided =>
    intro compiled otherCompiled hfirst hsecond σ _ validator mode limit method target body
    rw [hfirst, hsecond] at hcompiled
    cases hcompiled
    unfold decisionOn?
    rw [hread]

/-- A description with two header parameters of these names. -/
def keyed (name other : String) : Description where
  swagger := none
  openapi := none
  paths :=
    [("/pets", ⟨fun
        | .get => some ⟨none, some [
            ⟨some name, some "header", some "string", some true, none, none, none⟩,
            ⟨some other, some "header", some "integer", none, none, none, none⟩], none⟩
        | _ => none⟩)]

/-- Names that differ in case only may be declared in any of them. -/
theorem keyed_sameButHeaderCase {name other recased otherRecased : String}
    (hname : Case.SameButCase name recased) (hother : Case.SameButCase other otherRecased) :
    (keyed name other).SameButHeaderCase (keyed recased otherRecased) where
  swagger := rfl
  openapi := rfl
  paths := by
    refine .cons ⟨rfl, fun verb => ?_⟩ .nil
    cases verb with
    | get =>
      refine .some ⟨rfl, .some (.cons ?_ (.cons ?_ .nil)), rfl⟩
      · exact Or.inr ⟨rfl, name, recased, rfl, hname, rfl⟩
      · exact Or.inr ⟨rfl, other, otherRecased, rfl, hother, rfl⟩
    | put | post | delete | options | head | patch => exact .none

/-- Two parameters whose names fall together have one rule, that of the second, and two header fields
whose names do have one text. -/
theorem keyed_ignoresHeaderCase : ∃ compiled rules headers,
    (keyed "X-Key" "x-key").compile = .ok compiled ∧ (keyed "x-KEY" "X-key").compile = .ok compiled ∧
    compiled.rules.lookup? "/pets" .get = some rules ∧
    rules.header.map (fun entry => (entry.1, entry.2.kind)) = [("x-key", some "integer")] ∧
    Headers.ofSent? [("X-KEY", Utf8.encode "a"), ("x-key", Utf8.encode "b")] = some headers ∧
    Fields.get? "x-key" (Bag.ofHeaders headers) = some (.string "a, b") := by
  have hsent : SentHeaders.SameButCase [("X-KEY", Utf8.encode "a"), ("x-key", Utf8.encode "b")]
      [("x-key", Utf8.encode "a"), ("X-Key", Utf8.encode "b")] :=
    .cons ⟨by decide, rfl⟩ (.cons ⟨by decide, rfl⟩ .nil)
  have hkeyed : (keyed "X-Key" "x-key").SameButHeaderCase (keyed "x-KEY" "X-key") :=
    keyed_sameButHeaderCase (by decide) (by decide)
  have h := ignoresHeaderCase hkeyed hsent
  have hcompiled : ∃ compiled rules, (keyed "X-Key" "x-key").compile = .ok compiled ∧
      compiled.rules.lookup? "/pets" .get = some rules ∧
      rules.header.map (fun entry => (entry.1, entry.2.kind)) = [("x-key", some "integer")] :=
    ⟨_, _, rfl, rfl, rfl⟩
  obtain ⟨compiled, rules, hfirst, hrules, hheader⟩ := hcompiled
  have hsecond : (keyed "x-KEY" "X-key").compile = .ok compiled := by
    have hsame := h.compiled
    rw [hfirst] at hsame
    generalize (keyed "x-KEY" "X-key").compile = second at hsame
    cases hsame
    rfl
  have hread : Headers.ofSent? [("X-KEY", Utf8.encode "a"), ("x-key", Utf8.encode "b")] =
      some [("x-key", Utf8.encode "a"), ("x-key", Utf8.encode "b")] := by
    unfold Headers.ofSent?
    simp only [List.mapM_cons, List.mapM_nil, Headers.field?_encode]
    rfl
  refine ⟨compiled, rules, _, hfirst, hsecond, hrules, hheader, hread, ?_⟩
  refine ((h.joined _ hread).2 "X-Key").trans ?_
  have hvalues : SentHeaders.values "X-Key" [("X-KEY", Utf8.encode "a"), ("x-key", Utf8.encode "b")] =
      [Utf8.encode "a", Utf8.encode "b"] := rfl
  rw [hvalues]
  unfold Bag.joined?
  simp only [List.map_cons, List.map_nil, Utf8.decodeLossy_encode]
  rfl

end Http
end RequestGate
