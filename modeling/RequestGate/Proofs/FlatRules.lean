import RequestGate.Proofs.RuleOptions

/-!
# Rules as flat objects

A rule is written as one object, in which its options stand beside its kind and its mark.  That object
can be read back because no option of a compiled rule has the name of either: whatever the extensions of
a field say, `type` and `required` override the rule and do not stay among its options.

Main results:

- Theorem `Rule.ofJson?_toJson`: a rule whose options have other names is read back as it was.
- Theorem `Rule.IsCompiled.isFlat`: the options of a compiled rule have other names, each once.
- Theorem `Rule.IsFlat.same_of_same_toJson`: flat rules with the same object are the same rule.
- Theorem `Rule.survives_of_compile`: the rules of a compiled description survive being written.
-/

namespace RequestGate

namespace Rule

/-- The options of a rule do not stand in the way of its kind and its mark, and each has a name of its
own. -/
structure IsFlat (rule : Rule) : Prop where
  kind_notMem : "type" ∉ rule.options.names
  required_notMem : "required" ∉ rule.options.names
  distinct : rule.options.Distinct

/-! ## Writing and reading -/

/-- The members of the object that a rule is written as. -/
def members (rule : Rule) : Fields Json :=
  (rule.kind.map fun kind => ("type", Json.string kind)).toList ++
    ("required", .bool rule.required) :: rule.options

theorem toJson_eq (rule : Rule) : rule.toJson = .object rule.members :=
  rfl

theorem names_members (rule : Rule) :
    rule.members.names = (rule.kind.map fun _ => "type").toList ++ "required" :: rule.options.names := by
  cases hkind : rule.kind <;> simp [members, Fields.names, hkind]

/-- A flat rule is written with every name once. -/
theorem IsFlat.distinct_members {rule : Rule} (h : rule.IsFlat) : rule.members.Distinct := by
  have hrest : ("required" :: rule.options.names).Nodup :=
    List.nodup_cons.2 ⟨h.required_notMem, h.distinct⟩
  unfold Fields.Distinct
  rw [names_members]
  cases rule.kind with
  | none => exact hrest
  | some kind =>
    have hkind : "type" ∉ "required" :: rule.options.names := by
      rw [List.mem_cons, not_or]
      exact ⟨by decide, h.kind_notMem⟩
    exact List.nodup_cons.2 ⟨hkind, hrest⟩

/-- A member of a flat rule beside its kind and its mark is an option. -/
theorem get?_members {rule : Rule} {name : String} (hkind : name ≠ "type")
    (hrequired : name ≠ "required") :
    Fields.get? name rule.members = Fields.get? name rule.options := by
  cases hfound : rule.kind <;>
    simp [members, hfound, Fields.get?_cons, Ne.symm hkind, Ne.symm hrequired]

theorem IsFlat.get?_kind {rule : Rule} (h : rule.IsFlat) :
    Fields.get? "type" rule.members = rule.kind.map Json.string := by
  have hnone := Fields.get?_eq_none_iff.2 h.kind_notMem
  cases hkind : rule.kind <;> simp [members, hkind, Fields.get?_cons, hnone]

theorem get?_required (rule : Rule) :
    Fields.get? "required" rule.members = some (.bool rule.required) := by
  cases hkind : rule.kind <;> simp [members, hkind, Fields.get?_cons]

/-- A flat rule is read back from the object that it is written as. -/
theorem ofJson?_toJson {rule : Rule} (h : rule.IsFlat) : ofJson? rule.toJson = some rule := by
  have hkind : Json.Record.optional? Json.asString? (rule.kind.map Json.string) = some rule.kind := by
    cases rule.kind <;> rfl
  have hoptions : (rule.members.erase "type").erase "required" = rule.options := by
    have hdifferent : ("required" : String) ≠ "type" := by decide
    have herased : Fields.erase "type" (("required", Json.bool rule.required) :: rule.options) =
        ("required", .bool rule.required) :: rule.options := by
      rw [Fields.erase_cons_of_ne hdifferent, Fields.erase_of_notMem h.kind_notMem]
    have htype : rule.members.erase "type" = ("required", .bool rule.required) :: rule.options := by
      unfold members
      cases rule.kind with
      | none => exact herased
      | some kind => exact (Fields.erase_cons_self _ _ _).trans herased
    rw [htype, Fields.erase_cons_self, Fields.erase_of_notMem h.required_notMem]
  unfold ofJson?
  rw [toJson_eq]
  simp only [Json.asObject?, h.get?_kind, get?_required, hkind, hoptions, Option.bind_eq_bind,
    Option.bind_some, Json.asBool?]
  rfl

/-! ## The same object -/

/-- Two rules are the same, but that their options may stand in another order. -/
structure Same (first second : Rule) : Prop where
  kind_eq : first.kind = second.kind
  required_eq : first.required = second.required
  options_same : Json.same (.object first.options) (.object second.options) = true

theorem sameMembers_iff {members other : Fields Json} : Json.sameMembers members other = true ↔
    ∀ entry ∈ members, ∃ value, Fields.get? entry.1 other = some value ∧
      Json.same entry.2 value = true := by
  induction members with
  | nil => simp [Json.sameMembers]
  | cons entry rest ih =>
    obtain ⟨name, value⟩ := entry
    rw [Json.sameMembers, Bool.and_eq_true, ih, List.forall_mem_cons]
    refine and_congr_left fun _ => ?_
    cases Fields.get? name other <;> simp

/-- Of two objects with as many members, the names of one are those of the other when each of them
occurs there. -/
theorem names_perm {first second : Fields Json} (hdistinct : first.Distinct)
    (hlength : first.length = second.length) (hsub : ∀ name ∈ first.names, name ∈ second.names) :
    first.names.Perm second.names := by
  refine (List.subperm_of_subset hdistinct hsub).perm_of_length_le ?_
  simp [Fields.names, hlength]

/-- Flat rules that are written as the same object are the same rule. -/
theorem IsFlat.same_of_same_toJson {first second : Rule} (hfirst : first.IsFlat)
    (hsecond : second.IsFlat) (h : Json.same first.toJson second.toJson = true) :
    first.Same second := by
  rw [toJson_eq, toJson_eq, Json.same, Bool.and_eq_true, beq_iff_eq] at h
  obtain ⟨hlength, hmembers⟩ := h
  have hentry := sameMembers_iff.1 hmembers
  have hsub : ∀ name ∈ first.members.names, name ∈ second.members.names := by
    intro name hname
    obtain ⟨entry, hmem, rfl⟩ := List.mem_map.1 hname
    obtain ⟨value, hvalue, _⟩ := hentry entry hmem
    exact List.mem_map.2 ⟨_, Fields.mem_of_get? hvalue, rfl⟩
  have hnames := names_perm hfirst.distinct_members hlength hsub
  have hmember : ∀ {name value}, Fields.get? name first.members = some value →
      ∃ other, Fields.get? name second.members = some other ∧ Json.same value other = true :=
    fun hvalue => hentry _ (Fields.mem_of_get? hvalue)
  have hkind : first.kind = second.kind := by
    cases hfound : first.kind with
    | some kind =>
      obtain ⟨other, hother, hsame⟩ := hmember (hfirst.get?_kind.trans (by rw [hfound]; rfl))
      rw [hsecond.get?_kind] at hother
      obtain ⟨text, htext, rfl⟩ := Option.map_eq_some_iff.1 hother
      rw [htext, eq_of_beq (show (kind == text) = true by simpa [Json.same] using hsame)]
    | none =>
      -- A kind of the second rule would be a name that the first one does not have.
      have hnone : Fields.get? "type" first.members = none := by rw [hfirst.get?_kind, hfound]; rfl
      have hother : "type" ∉ second.members.names := fun hmem =>
        Fields.get?_eq_none_iff.1 hnone (hnames.mem_iff.2 hmem)
      have hsecondNone := Fields.get?_eq_none_iff.2 hother
      rw [hsecond.get?_kind, Option.map_eq_none_iff] at hsecondNone
      exact hsecondNone.symm
  have hrequired : first.required = second.required := by
    obtain ⟨other, hother, hsame⟩ := hmember first.get?_required
    rw [get?_required] at hother
    cases hother
    simpa [Json.same] using hsame
  refine ⟨hkind, hrequired, ?_⟩
  rw [Json.same, Bool.and_eq_true, beq_iff_eq, sameMembers_iff]
  constructor
  · simpa [members, hkind] using hlength
  · intro entry hmem
    have hother : ∀ {name}, name ∉ first.options.names → entry.1 ≠ name := fun hnot hname =>
      hnot (hname ▸ List.mem_map_of_mem hmem)
    have hkey := hother hfirst.kind_notMem
    have hmark := hother hfirst.required_notMem
    obtain ⟨value, hvalue, hsame⟩ := hmember
      ((get?_members hkey hmark).trans ((Fields.get?_eq_some_iff_mem hfirst.distinct).2 hmem))
    exact ⟨value, (get?_members hkey hmark).symm.trans hvalue, hsame⟩

end Rule

/-! ## Compiled rules -/

/-- An object of options has every name once. -/
def Extensions.AreDistinct (options : Option Json) : Prop :=
  ∀ members, options = some (.object members) → Fields.Distinct members

/-- The options of a parameter, and those of the properties of its schema, have every name once. -/
structure Parameter.HasDistinctOptions (parameter : Parameter) : Prop where
  own : Extensions.AreDistinct parameter.formatOptions
  properties : ∀ schema properties, parameter.schema = some schema →
    schema.properties = some properties →
      ∀ entry ∈ properties, Extensions.AreDistinct entry.2.formatOptions

/-- All options in a description have every name once: objects of a document are mappings. -/
def Description.HasDistinctOptions (description : Description) : Prop :=
  ∀ declared ∈ description.parameters, declared.parameter.HasDistinctOptions

namespace Rule

/-- A rule that can be built is flat: what is kept of its options has neither name. -/
theorem isFlat_of_build {declared : Option String} {required : Bool} {format options : Option Json}
    {field : String} {rule : Rule} (hdistinct : Extensions.AreDistinct options)
    (h : build declared required format options field = .ok rule) : rule.IsFlat := by
  obtain ⟨_, members, _, hmembers, hextends⟩ := build_cases h
  have hoptions : rule.options = members.filter isKept := hextends.options_eq
  have hmembers : Fields.Distinct members := by
    rcases optionMembers_eq_ok_iff.1 hmembers with hobject | ⟨_, rfl⟩
    · exact hdistinct members hobject
    · exact List.nodup_nil
  have hkept : ∀ name ∈ rule.options.names, name ≠ "type" ∧ name ≠ "required" := by
    intro name hname
    obtain ⟨entry, hentry, rfl⟩ := List.mem_map.1 hname
    rw [hoptions] at hentry
    simpa [isKept] using (List.mem_filter.1 hentry).2
  constructor
  case kind_notMem => exact fun hmem => (hkept _ hmem).1 rfl
  case required_notMem => exact fun hmem => (hkept _ hmem).2 rfl
  case distinct =>
    rw [hoptions]
    exact hmembers.sublist (List.filter_sublist.map Prod.fst)

end Rule

/-- The declared rules of a parameter are flat. -/
theorem Parameter.HasDistinctOptions.isFlat {parameter : Parameter}
    (hdistinct : parameter.HasDistinctOptions) {location : Location} {key : String} {rule : Rule}
    (h : (key, .ok rule) ∈ parameter.declaredAt location) : rule.IsFlat := by
  unfold declaredAt at h
  split at h
  · split at h
    · cases hschema : parameter.schema with
      | none => simp [hschema] at h
      | some schema =>
        simp only [hschema, Option.map_some, Option.getD_some] at h
        obtain ⟨⟨field, property⟩, hproperty, hpair⟩ := List.mem_map.1 h
        obtain ⟨rfl, hbuilt⟩ := Prod.mk.inj hpair
        cases hproperties : schema.properties with
        | none => simp [hproperties] at hproperty
        | some properties =>
          rw [hproperties, Option.getD_some] at hproperty
          have hoptions := hdistinct.properties schema properties hschema hproperties _ hproperty
          exact Rule.isFlat_of_build hoptions hbuilt
    · obtain ⟨name, _, hpair⟩ := List.mem_map.1 h
      obtain ⟨built, hbuilt, hrule⟩ := Fallible.map_eq_ok_iff.1 (Prod.mk.inj hpair).2
      have hflat := Rule.isFlat_of_build hdistinct.own hbuilt
      split at hrule <;> subst hrule
      · exact ⟨hflat.kind_notMem, hflat.required_notMem, hflat.distinct⟩
      · exact hflat
  · exact absurd h List.not_mem_nil

/-- A rule of a compiled description is declared by a parameter of the description. -/
theorem Compiled.HasRule.exists_declared {description : Description} {compiled : Compiled}
    (hcompile : description.compile = .ok compiled) {rule : Rule} (h : compiled.HasRule rule) :
    ∃ declared ∈ description.parameters, ∃ location key,
      (key, .ok rule) ∈ declared.parameter.declaredAt location := by
  obtain ⟨⟨route, verb, recorded⟩, hentry, rules, hrules, location, key, hrule⟩ := h
  obtain rfl : recorded = some rules := hrules
  have hrecorded :=
    (RuleTable.recorded?_eq_some_iff (Description.ordered_compile hcompile)).2 hentry
  obtain ⟨before, template, item, after, operation, hpaths, _, hoperation, _, hdeclared⟩ :=
    Description.recorded?_compile_eq_some hcompile hrecorded
  have hdistinct := Description.distinct_fieldsAt_compile hcompile hrecorded location
  unfold Operation.RecordedAs at hdeclared
  cases hparameters : operation.parameters with
  | none =>
    rw [hparameters] at hdeclared
    exact absurd hdeclared id
  | some parameters =>
    rw [hparameters] at hdeclared
    have hlast := (hdeclared location).get?_eq key
    rw [(Fields.get?_eq_some_iff_mem hdistinct).2 hrule, Option.map_some] at hlast
    obtain ⟨parameter, hparameter, hmem⟩ :=
      List.mem_flatMap.1 (Fields.mem_of_lastOf_eq_some hlast.symm)
    have hitem : (template, item) ∈ description.paths := by
      rw [hpaths]
      exact List.mem_append_right _ List.mem_cons_self
    refine ⟨⟨template, verb, parameter⟩, Description.mem_parameters.2
      ⟨item, operation, hitem, hoperation, ?_⟩, location, key, hmem⟩
    rw [hparameters]
    exact hparameter

namespace Rule

/-- A rule stands in the table of a compiled description. -/
def IsCompiled (rule : Rule) : Prop :=
  ∃ description : Description, description.HasDistinctOptions ∧ ∃ compiled,
    description.compile = .ok compiled ∧ compiled.HasRule rule

theorem IsCompiled.isFlat {rule : Rule} (h : rule.IsCompiled) : rule.IsFlat := by
  obtain ⟨description, hdistinct, compiled, hcompile, hrule⟩ := h
  obtain ⟨declared, hdeclared, location, key, hmem⟩ := hrule.exists_declared hcompile
  exact (hdistinct declared hdeclared).isFlat hmem

/-- A rule survives being written as one object. -/
structure Survives (rule : Rule) : Prop where
  kind_notMem : "type" ∉ rule.options.names
  required_notMem : "required" ∉ rule.options.names
  /-- No name is written twice. -/
  written : ∃ members, rule.toJson = .object members ∧ Fields.Distinct members
  read_back : ofJson? rule.toJson = some rule
  eq_of_toJson_eq : ∀ other : Rule, other.IsCompiled → other.toJson = rule.toJson → other = rule
  /-- Objects that are equal as mappings are written for rules that are equal as mappings. -/
  same_of_same_toJson : ∀ other : Rule, other.IsCompiled →
    Json.same other.toJson rule.toJson = true → other.Same rule

/-- The rules of every compiled description survive being written, and are told apart by what they are
written as. -/
theorem survives_of_compile {description : Description} {compiled : Compiled}
    (hdistinct : description.HasDistinctOptions) (hcompile : description.compile = .ok compiled)
    {rule : Rule} (hrule : compiled.HasRule rule) : rule.Survives := by
  have hcompiled : rule.IsCompiled := ⟨description, hdistinct, compiled, hcompile, hrule⟩
  have hflat := hcompiled.isFlat
  constructor
  case kind_notMem => exact hflat.kind_notMem
  case required_notMem => exact hflat.required_notMem
  case written => exact ⟨rule.members, toJson_eq rule, hflat.distinct_members⟩
  case read_back => exact ofJson?_toJson hflat
  case eq_of_toJson_eq =>
    intro other hother hsame
    have hread := ofJson?_toJson hother.isFlat
    rw [hsame, ofJson?_toJson hflat] at hread
    exact (Option.some.inj hread).symm
  case same_of_same_toJson =>
    exact fun other hother hsame => hother.isFlat.same_of_same_toJson hflat hsame

/-- A declared text whose options override both its kind and its mark. -/
def overriddenPage : Parameter :=
  ⟨some "page", some "query", some "string", none, none, none,
    some (.object [("type", .string "int"), ("required", .bool true), ("max", .ofInt 10)])⟩

/-- One operation with that parameter. -/
def overriddenPages : Description where
  swagger := none
  openapi := none
  paths := [("/pets", ⟨fun
    | .get => some ⟨none, some [overriddenPage], none⟩
    | _ => none⟩)]

/-- What overrides a rule is gone from its options, and it survives. -/
theorem overriddenPages_survives : overriddenPages.HasDistinctOptions ∧ ∃ compiled,
    overriddenPages.compile = .ok compiled ∧
      compiled.HasRule ⟨some "int", true, [("max", .ofInt 10)]⟩ ∧
        Survives ⟨some "int", true, [("max", .ofInt 10)]⟩ := by
  have hparameters : overriddenPages.parameters = [⟨"/pets", .get, overriddenPage⟩] := rfl
  have hdistinct : overriddenPages.HasDistinctOptions := by
    intro declared hdeclared
    rw [hparameters] at hdeclared
    obtain rfl := List.mem_singleton.1 hdeclared
    constructor
    case own =>
      intro members hmembers
      cases hmembers
      unfold Fields.Distinct
      decide
    case properties =>
      intro schema properties hschema
      cases hschema
  obtain ⟨compiled, hcompile, hentries⟩ : ∃ compiled, overriddenPages.compile = .ok compiled ∧
      compiled.rules.entries = [⟨"/pets", .get, some { LocationRules.empty with
        query := [("page", ⟨some "int", true, [("max", .ofInt 10)]⟩)] }⟩] :=
    ⟨_, rfl, rfl⟩
  have hrule : compiled.HasRule ⟨some "int", true, [("max", .ofInt 10)]⟩ := by
    unfold Compiled.HasRule
    rw [hentries]
    exact ⟨_, List.mem_singleton.2 rfl, _, rfl, .query, "page", List.mem_singleton.2 rfl⟩
  exact ⟨hdistinct, compiled, hcompile, hrule, survives_of_compile hdistinct hcompile hrule⟩

end Rule
end RequestGate
