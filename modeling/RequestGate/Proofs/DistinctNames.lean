import RequestGate.Proofs.Expansion
import RequestGate.Proofs.FlatRules
import RequestGate.Proofs.RoundTrip

/-!
# Names in documents

The readers of both formats insert the members of an object one after another, so that every object of
a document has each name once.  Expansion keeps the names of the objects that it walks and takes its
replacements from the document, so the same is true of what a description is read from: the paths of a
description have different templates, and no options of its parameters repeat a name.

Main results:

- Theorem `Description.hasDistinctNames_document`: the objects of a document have every name once.
- Theorem `Reference.hasDistinctNames_expand`: expansion does not repeat a name.
- Theorems `Description.distinct_paths_of_parse`, `Description.hasDistinctOptions_of_parse`: what a
  parsed description therefore has only once.
-/

namespace RequestGate

/-- An entry of a table with one more value is that value's or was there before. -/
theorem Fields.eq_or_mem_of_mem_insert {α : Type} {fields : Fields α} {name : String} {value : α}
    {entry : String × α} (h : entry ∈ Fields.insert name value fields) :
    entry = (name, value) ∨ entry ∈ fields := by
  unfold Fields.insert at h
  split at h
  · obtain ⟨old, hold, rfl⟩ := List.mem_map.1 h
    split
    · rename_i hname
      exact .inl (Prod.ext hname rfl)
    · exact .inr hold
  · rcases List.mem_append.1 h with hold | hnew
    · exact .inr hold
    · exact .inl (List.mem_singleton.1 hnew)

namespace Json

/-! ## Values -/

/-- Every object in a value has each of its names once. -/
def HasDistinctNames (value : Json) : Prop :=
  ∀ members, IsPartOf (.object members) value → Fields.Distinct members

theorem HasDistinctNames.of_isPartOf {part whole : Json} (h : whole.HasDistinctNames)
    (hpart : IsPartOf part whole) : part.HasDistinctNames :=
  fun members hmembers => h members (hmembers.trans hpart)

/-- A value without parts of its own. -/
def IsScalar : Json → Prop
  | .array _ | .object _ => False
  | _ => True

theorem IsScalar.hasDistinctNames {value : Json} (h : value.IsScalar) : value.HasDistinctNames := by
  intro members hpart
  cases hpart with
  | self | item | member => exact absurd h id

theorem hasDistinctNames_array {items : List Json} :
    (Json.array items).HasDistinctNames ↔ ∀ item ∈ items, item.HasDistinctNames := by
  constructor
  · exact fun h item hitem => h.of_isPartOf (isPartOf_array hitem)
  · intro h members hpart
    cases hpart with
    | item hitem hpart => exact h _ hitem _ hpart

theorem hasDistinctNames_object {members : Fields Json} :
    (Json.object members).HasDistinctNames ↔
      members.Distinct ∧ ∀ member ∈ members, member.2.HasDistinctNames := by
  constructor
  · exact fun h => ⟨h members .self, fun member hmember => h.of_isPartOf (isPartOf_object hmember)⟩
  · rintro ⟨hdistinct, h⟩ inner hpart
    cases hpart with
    | self => exact hdistinct
    | member hmember hpart => exact h _ hmember _ hpart

theorem hasDistinctNames_array_nil : (Json.array []).HasDistinctNames :=
  hasDistinctNames_array.2 fun _ hmem => absurd hmem List.not_mem_nil

theorem hasDistinctNames_object_nil : (Json.object []).HasDistinctNames :=
  hasDistinctNames_object.2 ⟨List.nodup_nil, fun _ hmem => absurd hmem List.not_mem_nil⟩

/-- One more member. -/
theorem HasDistinctNames.insert {done : Fields Json} {value : Json}
    (hdone : (Json.object done).HasDistinctNames) (hvalue : value.HasDistinctNames) (name : String) :
    (Json.object (done.insert name value)).HasDistinctNames := by
  obtain ⟨hdistinct, hmembers⟩ := hasDistinctNames_object.1 hdone
  refine hasDistinctNames_object.2 ⟨Fields.distinct_insert hdistinct _ _, fun member hmember => ?_⟩
  rcases Fields.eq_or_mem_of_mem_insert hmember with rfl | hold
  · exact hvalue
  · exact hmembers member hold

/-! ## JSON text -/

namespace Token

/-- A token that is a value has no parts. -/
def IsPlain : Token → Prop
  | .scalar value => value.IsScalar
  | _ => True

theorem isScalar_of_word? {word : List Char} {value : Json} (h : word? word = some value) :
    value.IsScalar := by
  unfold word? at h
  repeat' split at h
  all_goals
    cases h
    try trivial

theorem isPlain_of_first? {c : Char} {text rest : List Char} {token : Token}
    (h : first? c text = some (token, rest)) : token.IsPlain := by
  unfold first? at h
  split at h
  all_goals try (cases h; trivial)
  · obtain ⟨read, _, hpair⟩ := Option.map_eq_some_iff.1 h
    cases hpair
    trivial
  · split at h
    · obtain ⟨n, _, hpair⟩ := Option.map_eq_some_iff.1 h
      cases hpair
      trivial
    · obtain ⟨value, hvalue, hpair⟩ := Option.map_eq_some_iff.1 h
      cases hpair
      exact isScalar_of_word? hvalue

theorem isPlain_of_tokensOnto? {read tokens : List Token} {text : List Char}
    (hread : ∀ token ∈ read, token.IsPlain) (h : tokensOnto? read text = some tokens) :
    ∀ token ∈ tokens, token.IsPlain := by
  induction read, text using tokensOnto?.induct with
  | case1 read =>
    rw [tokensOnto?] at h
    cases h
    exact fun token htoken => hread token (List.mem_reverse.1 htoken)
  | case2 read c rest hblank ih =>
    rw [tokensOnto?, if_pos hblank] at h
    exact ih hread h
  | case3 read c rest hblank token left hfirst ih =>
    rw [tokensOnto?_cons, if_neg hblank, hfirst] at h
    exact ih (List.forall_mem_cons.2 ⟨isPlain_of_first? hfirst, hread⟩) h
  | case4 read c rest hblank hfirst =>
    rw [tokensOnto?_cons, if_neg hblank, hfirst] at h
    cases h

end Token

namespace Reader

/-- What an open container holds so far has every name once. -/
def Frame.HasDistinctNames : Frame → Prop
  | .array done => ∀ item ∈ done, item.HasDistinctNames
  | .object done | .member done _ => (Json.object done).HasDistinctNames

/-- What has been read so far has every name once. -/
def State.HasDistinctNames : State → Prop
  | .reading _ outer => ∀ frame ∈ outer, frame.HasDistinctNames
  | .finished value => value.HasDistinctNames

variable {outer : List Frame}

theorem hasDistinctNames_complete {value : Json} {next : State} (hvalue : value.HasDistinctNames)
    (houter : ∀ frame ∈ outer, frame.HasDistinctNames) (h : complete value outer = some next) :
    next.HasDistinctNames := by
  cases outer with
  | nil =>
    cases h
    exact hvalue
  | cons frame rest =>
    obtain ⟨hframe, hrest⟩ := List.forall_mem_cons.1 houter
    cases frame with
    | array done =>
      cases h
      exact List.forall_mem_cons.2 ⟨List.forall_mem_cons.2 ⟨hvalue, hframe⟩, hrest⟩
    | member done name =>
      cases h
      exact List.forall_mem_cons.2 ⟨Json.HasDistinctNames.insert hframe hvalue name, hrest⟩
    | object done => cases h

theorem hasDistinctNames_enter {limit : Nat} {expected : Expected} {frame : Frame} {next : State}
    (hframe : frame.HasDistinctNames) (houter : ∀ frame ∈ outer, frame.HasDistinctNames)
    (h : enter limit expected frame outer = some next) : next.HasDistinctNames := by
  unfold enter at h
  split at h
  · cases h
    exact List.forall_mem_cons.2 ⟨hframe, houter⟩
  · cases h

theorem hasDistinctNames_start {limit : Nat} {token : Token} {next : State} (htoken : token.IsPlain)
    (houter : ∀ frame ∈ outer, frame.HasDistinctNames) (h : start limit outer token = some next) :
    next.HasDistinctNames := by
  cases token with
  | openArray =>
    have hframe : (Frame.array []).HasDistinctNames := fun _ hmem => absurd hmem List.not_mem_nil
    exact hasDistinctNames_enter hframe houter h
  | openObject =>
    have hframe : (Frame.object []).HasDistinctNames := hasDistinctNames_object_nil
    exact hasDistinctNames_enter hframe houter h
  | text s =>
    have hplain : (Json.string s).IsScalar := trivial
    exact hasDistinctNames_complete hplain.hasDistinctNames houter h
  | scalar value => exact hasDistinctNames_complete (IsScalar.hasDistinctNames htoken) houter h
  | closeArray | closeObject | comma | colon => cases h

/-- One more token. -/
theorem State.HasDistinctNames.step {limit : Nat} {state next : State} {token : Token}
    (hstate : state.HasDistinctNames) (htoken : token.IsPlain)
    (h : Reader.step limit state token = some next) : next.HasDistinctNames := by
  unfold Reader.step at h
  split at h
  case h_2 | h_4 => exact hasDistinctNames_start htoken hstate h
  case h_3 => exact hasDistinctNames_complete hasDistinctNames_array_nil (List.forall_mem_cons.1 hstate).2 h
  case h_5 =>
    exact hasDistinctNames_complete hasDistinctNames_object_nil (List.forall_mem_cons.1 hstate).2 h
  case h_10 =>
    obtain ⟨hdone, houter⟩ := List.forall_mem_cons.1 hstate
    refine hasDistinctNames_complete (hasDistinctNames_array.2 fun item hitem => ?_) houter h
    exact hdone item (List.mem_reverse.1 hitem)
  case h_12 =>
    obtain ⟨hdone, houter⟩ := List.forall_mem_cons.1 hstate
    exact hasDistinctNames_complete hdone houter h
  case h_6 | h_7 =>
    cases h
    obtain ⟨hdone, houter⟩ := List.forall_mem_cons.1 hstate
    exact List.forall_mem_cons.2 ⟨hdone, houter⟩
  -- What is left changes what may come next, and nothing that was read.
  all_goals
    cases h
    try exact hstate

theorem hasDistinctNames_run {limit : Nat} {tokens : List Token} {state last : State}
    (hstate : state.HasDistinctNames) (htokens : ∀ token ∈ tokens, token.IsPlain)
    (h : tokens.foldlM (Reader.step limit) state = some last) : last.HasDistinctNames := by
  induction tokens generalizing state with
  | nil =>
    cases h
    exact hstate
  | cons token rest ih =>
    obtain ⟨htoken, hrest⟩ := List.forall_mem_cons.1 htokens
    rw [List.foldlM_cons] at h
    obtain ⟨next, hnext, hlast⟩ := Option.bind_eq_some_iff.1 h
    exact ih (hstate.step htoken hnext) hrest hlast

end Reader

/-- The objects in a JSON document have every name once. -/
theorem hasDistinctNames_read? {text : String} {value : Json} (h : read? text = some value) :
    value.HasDistinctNames := by
  obtain ⟨tokens, htokens, h⟩ := Option.bind_eq_some_iff.1 h
  obtain ⟨last, hlast, h⟩ := Option.bind_eq_some_iff.1 h
  have hplain := Token.isPlain_of_tokensOnto? (fun _ hmem => absurd hmem List.not_mem_nil) htokens
  have hstart : (Reader.State.reading .value []).HasDistinctNames :=
    fun _ hmem => absurd hmem List.not_mem_nil
  have hread := Reader.hasDistinctNames_run hstart hplain hlast
  cases last with
  | finished found =>
    cases h
    exact hread
  | reading => cases h

end Json

/-! ## YAML text -/

namespace Yaml.Value

mutual

/-- The objects in a converted value have every name once. -/
theorem hasDistinctNames_toJson (value : Value) {json : Json} (h : value.toJson = .ok json) :
    json.HasDistinctNames := by
  match value with
  | .null | .bool _ | .integer _ | .string _ | .real (.finite _) | .real (.infinite _)
  | .real .notANumber =>
    cases h
    exact Json.IsScalar.hasDistinctNames trivial
  | .sequence items =>
    rw [toJson, Fallible.map_eq_ok_iff] at h
    obtain ⟨results, hresults, rfl⟩ := h
    exact hasDistinctNames_itemsJson items hresults
  | .mapping entries =>
    rw [toJson, Fallible.map_eq_ok_iff] at h
    obtain ⟨results, hresults, rfl⟩ := h
    exact hasDistinctNames_entriesJson entries Json.hasDistinctNames_object_nil hresults
  | .tagged _ value =>
    rw [toJson] at h
    exact hasDistinctNames_toJson value h

theorem hasDistinctNames_itemsJson (items : List Value) {results : List Json}
    (h : itemsJson items = .ok results) : (Json.array results).HasDistinctNames := by
  match items with
  | [] =>
    cases h
    exact Json.hasDistinctNames_array_nil
  | item :: rest =>
    rw [itemsJson] at h
    obtain ⟨first, hfirst, h⟩ := Fallible.bind_eq_ok_iff.1 h
    obtain ⟨others, hothers, h⟩ := Fallible.bind_eq_ok_iff.1 h
    cases h
    exact Json.hasDistinctNames_array.2 (List.forall_mem_cons.2 ⟨hasDistinctNames_toJson item hfirst,
      Json.hasDistinctNames_array.1 (hasDistinctNames_itemsJson rest hothers)⟩)

theorem hasDistinctNames_entriesJson (entries : List (Value × Value)) {done members : Fields Json}
    (hdone : (Json.object done).HasDistinctNames) (h : entriesJson done entries = .ok members) :
    (Json.object members).HasDistinctNames := by
  match entries with
  | [] =>
    cases h
    exact hdone
  | (key, value) :: rest =>
    rw [entriesJson] at h
    obtain ⟨name, _, h⟩ := Fallible.bind_eq_ok_iff.1 h
    obtain ⟨json, hjson, h⟩ := Fallible.bind_eq_ok_iff.1 h
    exact hasDistinctNames_entriesJson rest (hdone.insert (hasDistinctNames_toJson value hjson) name) h

end

end Yaml.Value

/-- The objects in a document have every name once, in either format. -/
theorem Description.hasDistinctNames_document {format : DocumentFormat} {text : String} {source : Json}
    (h : document format text = .ok source) : source.HasDistinctNames := by
  unfold document at h
  split at h
  · split at h
    · rename_i value hread
      cases h
      exact Json.hasDistinctNames_read? hread
    · cases h
  · split at h
    · rename_i value _
      cases hjson : value.toJson with
      | error key =>
        rw [hjson] at h
        cases h
      | ok json =>
        rw [hjson] at h
        cases h
        exact Yaml.Value.hasDistinctNames_toJson value hjson
    · cases h

/-! ## Expansion -/

namespace Reference

variable {replace : Fields Json → String → Except Fault Json}

theorem names_walkMembers {members results : Fields Json}
    (h : walkMembers replace members = .ok results) : results.names = members.names := by
  induction members generalizing results with
  | nil =>
    cases h
    rfl
  | cons member rest ih =>
    obtain ⟨name, value⟩ := member
    rw [walkMembers] at h
    obtain ⟨made, _, h⟩ := Fallible.bind_eq_ok_iff.1 h
    obtain ⟨others, hothers, h⟩ := Fallible.bind_eq_ok_iff.1 h
    cases h
    exact congrArg (name :: ·) (ih hothers)

/-- A turn does not repeat a name when its replacements do not. -/
theorem hasDistinctNames_walk {value result : Json} (hvalue : value.HasDistinctNames)
    (hreplace : ∀ members text replaced, (Json.object members).HasDistinctNames →
      replace members text = .ok replaced → replaced.HasDistinctNames)
    (h : walk replace value = .ok result) : result.HasDistinctNames := by
  induction value using Json.inductionOn generalizing result with
  | null | bool | number | string =>
    cases h
    exact hvalue
  | array items ih =>
    obtain ⟨results, rfl, _, hresults⟩ := exists_of_walk_array h
    refine Json.hasDistinctNames_array.2 fun made hmade => ?_
    obtain ⟨item, hitem, hwalk⟩ := hresults made hmade
    exact ih item hitem (Json.hasDistinctNames_array.1 hvalue item hitem) hwalk
  | object members ih =>
    cases htext : text? members with
    | some text =>
      rw [walk_of_text? htext] at h
      exact hreplace members text result hvalue h
    | none =>
      obtain ⟨hdistinct, hmembers⟩ := Json.hasDistinctNames_object.1 hvalue
      obtain ⟨results, rfl, _, hresults⟩ := exists_of_walk_object htext h
      rw [walk_of_text?_eq_none htext, Fallible.map_eq_ok_iff] at h
      obtain ⟨walked, hwalked, hsame⟩ := h
      cases hsame
      refine Json.hasDistinctNames_object.2 ⟨?_, fun made hmade => ?_⟩
      · unfold Fields.Distinct
        rw [names_walkMembers hwalked]
        exact hdistinct
      · obtain ⟨member, hmember, _, hwalk⟩ := hresults made hmade
        exact ih member hmember (hmembers member hmember) hwalk

theorem hasDistinctNames_expandFor {root : Json} (hroot : root.HasDistinctNames) {turns : Nat}
    {active : List String} {value result : Json} (hvalue : value.HasDistinctNames)
    (h : expandFor root turns active value = .ok result) : result.HasDistinctNames := by
  induction turns generalizing active value result with
  | zero =>
    cases h
    exact hvalue
  | succ turns ih =>
    refine hasDistinctNames_walk hvalue ?_ h
    intro members text replaced hmembers hreplaced
    split at hreplaced
    · cases hreplaced
      exact hmembers
    · obtain ⟨found, hfound, hexpanded⟩ := Fallible.bind_eq_ok_iff.1 hreplaced
      exact ih (hroot.of_isPartOf (isPartOf_of_target hfound)) hexpanded

/-- Expansion does not repeat a name. -/
theorem hasDistinctNames_expand {root result : Json} (hroot : root.HasDistinctNames)
    (h : expand root = .ok result) : result.HasDistinctNames :=
  hasDistinctNames_expandFor hroot hroot h

end Reference

/-! ## Descriptions -/

namespace Json.Record

variable {α : Type}

/-- The value of a field is a part of its record. -/
theorem isPartOf_of_field? {order : List String} {name : String} {value found : Json}
    (h : field? order name value = some found) : IsPartOf found value := by
  cases value with
  | object members => exact isPartOf_object (Fields.mem_of_get? h)
  | array items => exact isPartOf_array (mem_of_positional? h)
  | null | bool | number | string => cases h

/-- An optional field that is present was read from its value. -/
theorem exists_of_optional? {read : Json → Option α} {order : List String} {name : String}
    {value : Json} {result : α} (h : optional? read (field? order name value) = some (some result)) :
    ∃ found, IsPartOf found value ∧ read found = some result := by
  cases hfield : field? order name value with
  | none =>
    rw [hfield] at h
    cases h
  | some found =>
    rw [hfield] at h
    refine ⟨found, isPartOf_of_field? hfield, ?_⟩
    cases found with
    | null => cases h
    | bool | number | string | array | object =>
      obtain ⟨_, hread, hsome⟩ := Option.map_eq_some_iff.1 h
      cases hsome
      exact hread

/-- What is read of items was read from a part. -/
theorem exists_of_items? {read : Json → Option α} {value : Json} {results : List α}
    (h : items? read value = some results) {result : α} (hmem : result ∈ results) :
    ∃ item, IsPartOf item value ∧ read item = some result := by
  obtain ⟨items, hitems, h⟩ := Option.bind_eq_some_iff.1 h
  obtain ⟨item, hitem, hread⟩ := Fallible.exists_of_mem_forall₂ (Fallible.forall₂_of_mapM_eq_some h) hmem
  cases value with
  | array own =>
    cases hitems
    exact ⟨item, isPartOf_array hitem, hread⟩
  | null | bool | number | string | object => cases hitems

/-- What is read of members was read from a part, under the same names. -/
theorem exists_of_entries? {read : Json → Option α} {value : Json} {results : Fields α}
    (h : entries? read value = some results) : ∃ members : Fields Json, value = .object members ∧
      results.names = members.names ∧
        ∀ entry ∈ results, ∃ found, IsPartOf found value ∧ read found = some entry.2 := by
  obtain ⟨members, hmembers, h⟩ := Option.bind_eq_some_iff.1 h
  cases value with
  | object own =>
    cases hmembers
    have hread := Fallible.forall₂_of_mapM_eq_some h
    refine ⟨members, rfl, ?_, fun entry hentry => ?_⟩
    · refine (Fallible.map_eq_map_of_forall₂ (hread.imp fun member result hmade => ?_)).symm
      obtain ⟨_, _, rfl⟩ := Option.map_eq_some_iff.1 hmade
      rfl
    · obtain ⟨member, hmember, hfound⟩ := Fallible.exists_of_mem_forall₂ hread hentry
      obtain ⟨made, hmade, rfl⟩ := Option.map_eq_some_iff.1 hfound
      exact ⟨member.2, isPartOf_object hmember, hmade⟩
  | null | bool | number | string | array => cases hmembers

end Json.Record

open Json.Record

/-- Options that are read from a value have every name once when its objects do. -/
theorem Extensions.areDistinct_of_field? {order : List String} {value : Json} {options : Option Json}
    (hvalue : value.HasDistinctNames)
    (h : optional? some (field? order "x-format-options" value) = some options) :
    Extensions.AreDistinct options := by
  rintro members rfl
  obtain ⟨found, hpart, hfound⟩ := exists_of_optional? h
  cases hfound
  exact hvalue members hpart

theorem Parameter.hasDistinctOptions_of_ofJson? {value : Json} {parameter : Parameter}
    (hvalue : value.HasDistinctNames) (h : ofJson? value = some parameter) :
    parameter.HasDistinctOptions := by
  have hread := ofJson?_eq_some_iff.1 h
  constructor
  case own => exact Extensions.areDistinct_of_field? hvalue hread.formatOptions
  case properties =>
    intro schema properties hschema hproperties entry hentry
    obtain ⟨found, hpart, hfound⟩ := exists_of_optional? (hschema ▸ hread.schema)
    have hread := Schema.ofJson?_eq_some_iff.1 hfound
    obtain ⟨inner, hinner, hentries⟩ := exists_of_optional? (hproperties ▸ hread.properties)
    obtain ⟨_, _, _, hschemas⟩ := exists_of_entries? hentries
    obtain ⟨own, hown, hproperty⟩ := hschemas entry hentry
    have hdistinct := hvalue.of_isPartOf ((hown.trans hinner).trans hpart)
    exact Extensions.areDistinct_of_field? hdistinct
      (Schema.ofJson?_eq_some_iff.1 hproperty).formatOptions

namespace Description

/-- A parsed description is read from a value whose objects have every name once. -/
theorem exists_distinct_of_parse {format : DocumentFormat} {text : String} {description : Description}
    (h : parse format text = .ok description) :
    ∃ value : Json, value.HasDistinctNames ∧ ofJson? value = some description := by
  obtain ⟨source, hsource, h⟩ := Fallible.bind_eq_ok_iff.1 h
  unfold ofDocument at h
  split at h
  · split at h
    · cases h
    · rename_i expanded hexpanded
      split at h
      · rename_i found hfound
        cases h
        exact ⟨expanded, Reference.hasDistinctNames_expand (hasDistinctNames_document hsource) hexpanded,
          hfound⟩
      · cases h
  · cases h

/-- The paths of a description are absent, or they are read from an object in its value. -/
theorem IsReadFrom.paths_cases {description : Description} {value : Json}
    (h : description.IsReadFrom value) : description.paths = [] ∨ ∃ found,
      Json.IsPartOf found value ∧ entries? PathItem.ofJson? found = some description.paths := by
  have hpaths := h.paths
  cases hfield : field? fieldOrder "paths" value with
  | none =>
    rw [hfield] at hpaths
    exact .inl (Option.some.inj hpaths).symm
  | some found =>
    rw [hfield] at hpaths
    exact .inr ⟨found, isPartOf_of_field? hfield, hpaths⟩

/-- The paths of a parsed description have different templates. -/
theorem distinct_paths_of_parse {format : DocumentFormat} {text : String} {description : Description}
    (h : parse format text = .ok description) : description.paths.Distinct := by
  obtain ⟨value, hvalue, hread⟩ := exists_distinct_of_parse h
  rcases (ofJson?_eq_some_iff.1 hread).paths_cases with hnone | ⟨found, hpart, hentries⟩
  · rw [hnone]
    exact List.nodup_nil
  · obtain ⟨members, rfl, hnames, _⟩ := exists_of_entries? hentries
    unfold Fields.Distinct
    rw [hnames]
    exact hvalue members hpart

/-- No options in a parsed description repeat a name. -/
theorem hasDistinctOptions_of_parse {format : DocumentFormat} {text : String}
    {description : Description} (h : parse format text = .ok description) :
    description.HasDistinctOptions := by
  obtain ⟨value, hvalue, hread⟩ := exists_distinct_of_parse h
  intro declared hdeclared
  obtain ⟨item, operation, hitem, hoperation, hparameter⟩ := mem_parameters.1 hdeclared
  rcases (ofJson?_eq_some_iff.1 hread).paths_cases with hnone | ⟨paths, hpaths, hentries⟩
  · rw [hnone] at hitem
    exact absurd hitem List.not_mem_nil
  · obtain ⟨_, _, _, hitems⟩ := exists_of_entries? hentries
    obtain ⟨itemValue, hitemPart, hitemRead⟩ := hitems _ hitem
    have hverb := (PathItem.ofJson?_eq_some_iff.1 hitemRead).2 declared.verb
    obtain ⟨operationValue, hoperationPart, hoperationRead⟩ :=
      exists_of_optional? (hverb.trans (congrArg some hoperation))
    cases hparameters : operation.parameters with
    | none =>
      rw [hparameters] at hparameter
      exact absurd hparameter List.not_mem_nil
    | some parameters =>
      rw [hparameters] at hparameter
      have hlist := (Operation.ofJson?_eq_some_iff.1 hoperationRead).parameters
      obtain ⟨listValue, hlistPart, hlistRead⟩ := exists_of_optional? (hparameters ▸ hlist)
      obtain ⟨parameterValue, hparameterPart, hparameterRead⟩ := exists_of_items? hlistRead hparameter
      have hinOperation := (hparameterPart.trans hlistPart).trans hoperationPart
      have hinValue := (hinOperation.trans hitemPart).trans hpaths
      exact Parameter.hasDistinctOptions_of_ofJson? (hvalue.of_isPartOf hinValue) hparameterRead

end Description
end RequestGate
