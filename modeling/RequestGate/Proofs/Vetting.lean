import RequestGate.Gate.Startup
import RequestGate.Proofs.ByteOrder
import RequestGate.Proofs.Checking
import RequestGate.Proofs.Compilation
import RequestGate.Proofs.Planning

/-!
# Vetting is exact and sufficient

Before a gate starts, its checker vets the rules of every place of every recorded operation.  The
gate starts exactly when all of them are acceptable, and otherwise the refusal names the first place
that has a rule which is not.  A gate that has started never finds fault with its own rules.

Main results:

- Theorem `Checker.prepareRule_spec`: a rule is vetted successfully exactly when it is acceptable.
- Theorem `Gate.prepareAll_spec`: vetting stops at the first place with an unacceptable rule.
- Theorem `Gate.pairwise_vetted`: places are vetted in the order of route, method and location.
- Theorem `Gate.prepare_isExact`: when a gate starts, what is reported when it does not, and what a
  started gate never says.
-/

namespace RequestGate

/-- All rules are acceptable. -/
def FieldRules.AreAcceptable (rules : FieldRules) : Prop :=
  ∀ entry ∈ rules, entry.2.IsAcceptable

/-! ## One place -/

namespace Checker

/-- The patterns that a checker keeps are those of their texts. -/
def IsSound (checker : Checker) : Prop :=
  ∀ text pattern, Fields.get? text checker.patterns = some pattern →
    Pattern.ofText? text = some pattern

theorem isSound_fresh (convert : Bool) : (fresh convert).IsSound :=
  fun _ _ h => nomatch h

/-- Keeping one more pattern of a text. -/
theorem IsSound.insert {checker : Checker} (h : checker.IsSound) {text : String} {pattern : Pattern}
    (hpattern : Pattern.ofText? text = some pattern) :
    IsSound { checker with patterns := checker.patterns.insert text pattern } := by
  intro other found hfound
  rw [Fields.get?_insert] at hfound
  split at hfound
  · rename_i hsame
    rw [hsame, hpattern, hfound]
  · exact h other found hfound

theorem kindFault?_eq_none_iff {rule : Rule} {name : String} :
    kindFault? rule name = none ↔ (∃ kind, Kind.ofName? name = some kind) ∧
      (name = "enum" → ∃ values, rule.option? "values" = some (.array values)) := by
  unfold kindFault?
  cases hkind : Kind.ofName? name with
  | none => simp
  | some kind =>
    have henum : name = "enum" ↔ kind = .enumeration := by
      rw [← Kind.ofName?_eq_enumeration_iff, hkind, Option.some_inj]
    have hvalues : ((rule.option? "values").bind Json.asArray?).isNone = false ↔
        ∃ values, rule.option? "values" = some (.array values) := by
      rw [Option.isNone_eq_false_iff, Option.isSome_iff_exists]
      exact exists_congr fun values => asArray?_eq_some_iff
    simp only [ite_eq_right_iff, Bool.and_eq_true,
      decide_eq_true_eq, reduceCtorEq, imp_false, not_and, Bool.not_eq_true, henum, hvalues]
    exact ⟨fun h => ⟨⟨kind, rfl⟩, h⟩, fun h => h.2⟩

/-- The kinds that a rule names are fit exactly when the rule is acceptable apart from its format. -/
theorem kindNames_fit_iff {rule : Rule} :
    (kindNames rule).findSome? (kindFault? rule) = none ↔
      (∀ name, rule.kind = some name → ∃ kind, Kind.ofName? name = some kind) ∧
      (∀ name, rule.option? "itemType" = some (.string name) →
        ∃ kind, Kind.ofName? name = some kind) ∧
      (rule.kind = some "enum" ∨ rule.option? "itemType" = some (.string "enum") →
        ∃ values, rule.option? "values" = some (.array values)) := by
  have hmem : ∀ name, name ∈ kindNames rule ↔
      rule.kind = some name ∨ rule.option? "itemType" = some (.string name) := by
    intro name
    unfold kindNames
    rw [List.mem_append, Option.mem_toList, Option.mem_toList, textOption?_eq_some_iff]
  rw [List.findSome?_eq_none_iff]
  constructor
  · intro h
    have hfit : ∀ name, rule.kind = some name ∨ rule.option? "itemType" = some (.string name) →
        (∃ kind, Kind.ofName? name = some kind) ∧
          (name = "enum" → ∃ values, rule.option? "values" = some (.array values)) :=
      fun name hname => kindFault?_eq_none_iff.1 (h name ((hmem name).2 hname))
    exact ⟨fun name hname => (hfit name (Or.inl hname)).1,
      fun name hname => (hfit name (Or.inr hname)).1, fun henum => (hfit "enum" henum).2 rfl⟩
  · rintro ⟨hkind, hitem, hvalues⟩ name hname
    rw [hmem] at hname
    refine kindFault?_eq_none_iff.2 ⟨hname.elim (hkind name) (hitem name), ?_⟩
    rintro rfl
    exact hvalues hname

/-- A rule is vetted successfully exactly when it is acceptable. -/
theorem prepareRule_spec {checker : Checker} (h : checker.IsSound) (entry : String × Rule) :
    (checker.prepareRule entry).1.IsSound ∧
      ((checker.prepareRule entry).2 = none ↔ entry.2.IsAcceptable) := by
  obtain ⟨field, rule⟩ := entry
  have hacceptable : rule.IsAcceptable ↔ (kindNames rule).findSome? (kindFault? rule) = none ∧
      ∀ text, rule.option? "format" = some (.string text) →
        ∃ pattern, Pattern.ofText? text = some pattern := by
    rw [kindNames_fit_iff]
    exact ⟨fun h => ⟨⟨h.kind_known, h.itemType_known, h.values_given⟩, h.format_is_pattern⟩,
      fun h => ⟨h.1.1, h.1.2.1, h.1.2.2, h.2⟩⟩
  unfold prepareRule
  simp only [hacceptable]
  cases hkinds : (kindNames rule).findSome? (kindFault? rule) with
  | some reason => exact ⟨h, by simp⟩
  | none =>
    simp only [true_and]
    cases hformat : textOption? rule "format" with
    | none =>
      refine ⟨h, iff_of_true rfl ?_⟩
      intro text htext
      rw [textOption?_eq_some_iff.2 htext] at hformat
      cases hformat
    | some format =>
      have honly : (∀ text, rule.option? "format" = some (.string text) →
          ∃ pattern, Pattern.ofText? text = some pattern) ↔
            ∃ pattern, Pattern.ofText? format = some pattern := by
        rw [textOption?_eq_some_iff] at hformat
        constructor
        · intro hall
          exact hall format hformat
        · intro hpattern text htext
          rw [hformat] at htext
          cases htext
          exact hpattern
      rw [honly]
      simp only
      split
      · rename_i hcontains
        obtain ⟨pattern, hpattern⟩ := Option.isSome_iff_exists.1 hcontains
        exact ⟨h, iff_of_true rfl ⟨pattern, h format pattern hpattern⟩⟩
      · cases hpattern : Pattern.ofText? format with
        | none => exact ⟨h, by simp⟩
        | some pattern => exact ⟨h.insert hpattern, iff_of_true rfl ⟨pattern, rfl⟩⟩

/-- Rules are vetted successfully exactly when all of them are acceptable. -/
theorem prepare_spec {checker : Checker} (h : checker.IsSound) (rules : FieldRules) :
    (checker.prepare rules).1.IsSound ∧
      ((checker.prepare rules).2 = none ↔ rules.AreAcceptable) := by
  induction rules generalizing checker with
  | nil => exact ⟨h, iff_of_true rfl fun _ hmem => absurd hmem List.not_mem_nil⟩
  | cons entry rest ih =>
    obtain ⟨hsound, hrule⟩ := prepareRule_spec h entry
    unfold prepare
    cases hprepare : checker.prepareRule entry with
    | mk next refusal =>
      rw [hprepare] at hsound hrule
      unfold FieldRules.AreAcceptable
      rw [List.forall_mem_cons, ← hrule]
      cases refusal with
      | some reason => exact ⟨hsound, by simp⟩
      | none =>
        have hrest := ih hsound
        unfold FieldRules.AreAcceptable at hrest
        simpa using hrest

end Checker

/-! ## All places -/

/-- A place of the requests for an operation. -/
structure Place where
  route : String
  verb : Verb
  location : Location
  deriving DecidableEq

namespace Place

/-- The order in which places are vetted: the bytes of the route, the method, the location. -/
def Precedes (a b : Place) : Prop :=
  Utf8.encode a.route < Utf8.encode b.route ∨ a.route = b.route ∧
    (a.verb.rank < b.verb.rank ∨ a.verb = b.verb ∧ a.location.rank < b.location.rank)

/-- A place has acceptable rules in a table, if it has any. -/
def IsAcceptable (table : RuleTable) (place : Place) : Prop :=
  ∀ rules, table.recorded? place.route place.verb = some (some rules) →
    FieldRules.AreAcceptable (rules.fieldsAt place.location)

end Place

/-- The place that a refusal names. -/
def RuleRefusal.place (refusal : RuleRefusal) : Place :=
  ⟨refusal.route, refusal.verb, refusal.location⟩

namespace Gate

/-- The place that vetted rules are for. -/
def placeOf (entry : String × Verb × Location × FieldRules) : Place :=
  ⟨entry.1, entry.2.1, entry.2.2.1⟩

theorem prepareAll_cons_refused {checker next : Checker} {rules : FieldRules} {reason : String}
    (h : checker.prepare rules = (next, some reason)) (route : String) (verb : Verb)
    (location : Location) (rest : List (String × Verb × Location × FieldRules)) :
    prepareAll checker ((route, verb, location, rules) :: rest) =
      .error ⟨route, verb, location, reason⟩ := by
  unfold prepareAll
  rw [show Validator.prepare checker rules = (next, some reason) from h]

theorem prepareAll_cons_accepted {checker next : Checker} {rules : FieldRules}
    (h : checker.prepare rules = (next, none)) (route : String) (verb : Verb)
    (location : Location) (rest : List (String × Verb × Location × FieldRules)) :
    prepareAll checker ((route, verb, location, rules) :: rest) = prepareAll next rest := by
  rw [prepareAll, show Validator.prepare checker rules = (next, none) from h]

/-- Vetting goes on up to the first place whose rules are not acceptable. -/
theorem prepareAll_spec {checker : Checker} (h : checker.IsSound)
    (entries : List (String × Verb × Location × FieldRules)) :
    match prepareAll checker entries with
    | .ok _ => ∀ entry ∈ entries, entry.2.2.2.AreAcceptable
    | .error refusal => ∃ before entry after, entries = before ++ entry :: after ∧
        (∀ earlier ∈ before, earlier.2.2.2.AreAcceptable) ∧
        ¬ entry.2.2.2.AreAcceptable ∧ placeOf entry = refusal.place := by
  induction entries generalizing checker with
  | nil => exact fun _ hmem => absurd hmem List.not_mem_nil
  | cons entry rest ih =>
    obtain ⟨route, verb, location, rules⟩ := entry
    obtain ⟨hsound, hrules⟩ := Checker.prepare_spec h rules
    cases hprepare : checker.prepare rules with
    | mk next refusal =>
      rw [hprepare] at hsound hrules
      cases refusal with
      | some reason =>
        rw [prepareAll_cons_refused hprepare]
        refine ⟨[], (route, verb, location, rules), rest, rfl, ?_, ?_, rfl⟩
        · exact fun _ hmem => absurd hmem List.not_mem_nil
        · intro hacceptable
          cases hrules.2 hacceptable
      | none =>
        have hthis : rules.AreAcceptable := hrules.1 rfl
        have hrest := ih hsound
        rw [prepareAll_cons_accepted hprepare]
        cases hall : prepareAll next rest with
        | ok last =>
          rw [hall] at hrest
          exact List.forall_mem_cons.2 ⟨hthis, hrest⟩
        | error refusal =>
          rw [hall] at hrest
          obtain ⟨before, entry, after, hsplit, hbefore, hentry, hplace⟩ := hrest
          refine ⟨(route, verb, location, rules) :: before, entry, after, ?_, ?_, hentry, hplace⟩
          · rw [hsplit, List.cons_append]
          · exact List.forall_mem_cons.2 ⟨hthis, hbefore⟩

/-- What is vetted: the rules of the recorded operations, where they have some. -/
theorem mem_vetted {table : RuleTable} {entry : String × Verb × Location × FieldRules} :
    entry ∈ vetted table ↔ ∃ rules, ⟨entry.1, entry.2.1, some rules⟩ ∈ table.entries ∧
      entry.2.2.2 = rules.fieldsAt entry.2.2.1 ∧ entry.2.2.2.isEmpty = false := by
  obtain ⟨route, verb, location, fields⟩ := entry
  unfold vetted
  rw [List.mem_flatMap]
  constructor
  · rintro ⟨⟨entryRoute, entryVerb, recorded⟩, hentry, hmem⟩
    obtain ⟨place, hplace, hpair⟩ := List.mem_map.1 hmem
    cases hpair
    cases recorded with
    | none => cases hplace
    | some rules => exact ⟨rules, hentry, LocationRules.mem_nonempty.1 hplace⟩
  · rintro ⟨rules, hentry, hfields⟩
    exact ⟨_, hentry, List.mem_map.2 ⟨(location, fields), LocationRules.mem_nonempty.2 hfields, rfl⟩⟩

/-- In an ordered table, all rules that are vetted are acceptable exactly when all places are. -/
theorem acceptable_iff {table : RuleTable} (h : table.Ordered) {place : Place} :
    place.IsAcceptable table ↔
      ∀ entry ∈ vetted table, placeOf entry = place → entry.2.2.2.AreAcceptable := by
  constructor
  · rintro hplace ⟨route, verb, location, fields⟩ hmem rfl
    obtain ⟨rules, hentry, hfields, _⟩ := mem_vetted.1 hmem
    rw [hfields]
    exact hplace rules ((RuleTable.recorded?_eq_some_iff h).2 hentry)
  · intro hall rules hrecorded
    -- A place without rules is not vetted, and it has nothing to accept.
    cases hempty : (rules.fieldsAt place.location).isEmpty with
    | true =>
      intro entry hmem
      rw [List.isEmpty_iff.1 hempty] at hmem
      exact absurd hmem List.not_mem_nil
    | false =>
      have hentry := (RuleTable.recorded?_eq_some_iff h).1 hrecorded
      exact hall (place.route, place.verb, place.location, rules.fieldsAt place.location)
        (mem_vetted.2 ⟨rules, hentry, rfl, hempty⟩) rfl

/-- Places are vetted in the order of route, method and location. -/
theorem pairwise_vetted {table : RuleTable} (h : table.Ordered) :
    (vetted table).Pairwise fun a b => (placeOf a).Precedes (placeOf b) := by
  unfold vetted
  rw [List.pairwise_flatMap]
  constructor
  · rintro ⟨route, verb, recorded⟩ _
    rw [List.pairwise_map]
    cases recorded with
    | none => exact List.Pairwise.nil
    | some rules =>
      exact (LocationRules.pairwise_nonempty rules).imp fun hrank => Or.inr ⟨rfl, Or.inr ⟨rfl, hrank⟩⟩
  · refine List.Pairwise.imp ?_ h
    intro a b hab x hx y hy
    obtain ⟨_, _, rfl⟩ := List.mem_map.1 hx
    obtain ⟨_, _, rfl⟩ := List.mem_map.1 hy
    rcases hab with hroute | ⟨hroute, hverb⟩
    · exact Or.inl (Utf8.encode_lt_encode_iff.2 hroute)
    · exact Or.inr ⟨hroute, Or.inl hverb⟩

/-! ## Starting -/

/-- What vetting decides for a table: it succeeds when all places are acceptable, and otherwise names
the first place that is not. -/
theorem prepareAll_vetted {table : RuleTable} (h : table.Ordered) {checker : Checker}
    (hsound : checker.IsSound) :
    match prepareAll checker (vetted table) with
    | .ok _ => ∀ place : Place, place.IsAcceptable table
    | .error refusal => ¬ refusal.place.IsAcceptable table ∧
        ∀ place : Place, ¬ place.IsAcceptable table →
          place = refusal.place ∨ refusal.place.Precedes place := by
  have hspec := prepareAll_spec hsound (vetted table)
  cases hall : prepareAll checker (vetted table) with
  | ok last =>
    rw [hall] at hspec
    exact fun place => (acceptable_iff h).2 fun entry hmem _ => hspec entry hmem
  | error refusal =>
    rw [hall] at hspec
    obtain ⟨before, entry, after, hsplit, hbefore, hentry, hplace⟩ := hspec
    have horder := pairwise_vetted h
    rw [hsplit, List.pairwise_append, List.pairwise_cons] at horder
    refine ⟨fun hacceptable => hentry ((acceptable_iff h).1 hacceptable entry ?_ hplace), ?_⟩
    · rw [hsplit]
      exact List.mem_append_right _ List.mem_cons_self
    · intro place hunacceptable
      rw [acceptable_iff h] at hunacceptable
      simp only [not_forall] at hunacceptable
      obtain ⟨other, hmem, rfl, hother⟩ := hunacceptable
      rw [hsplit] at hmem
      rcases List.mem_append.1 hmem with hearlier | hlater
      · exact absurd (hbefore other hearlier) hother
      · rw [← hplace]
        rcases List.mem_cons.1 hlater with rfl | hlater
        · exact Or.inl rfl
        · exact Or.inr (horder.2.1.1 other hlater)

/-- A gate says nothing about its own rules: neither when a rule is checked, nor when the rule for the
items of an array is, nor to any request. -/
structure NeverFaultsRules (gate : Gate Checker) : Prop where
  check : ∀ (place : Place) (rules : LocationRules),
    gate.compiled.rules.recorded? place.route place.verb = some (some rules) →
    ∀ entry ∈ rules.fieldsAt place.location, ∀ value message,
      gate.validator.check entry.2 value = .error message → ¬ IsRuleFault message
  checkItem : ∀ (place : Place) (rules : LocationRules),
    gate.compiled.rules.recorded? place.route place.verb = some (some rules) →
    ∀ entry ∈ rules.fieldsAt place.location,
      ∀ kind, Checker.textOption? entry.2 "itemType" = some kind → ∀ value message,
        gate.validator.checkItem (Checker.itemRule entry.2 kind) value = .error message →
          ¬ IsRuleFault message
  validate : ∀ request rejection, (gate.validate request).1 = .error rejection →
    ∀ e ∈ rejection.errors, ∀ message, e.defect = .invalid message → ¬ IsRuleFault message

/-- A failure that a check reports is that of a rule for its place. -/
theorem exists_of_mem_errors {gate : Gate Checker} {plan : Plan} {request : GateRequest}
    {rejection : Rejection} (hcheck : (gate.check plan request).1 = .error rejection) {e : FieldError}
    (he : e ∈ rejection.errors) :
    ∃ location, ∃ entry ∈ plan.rules.fieldsAt location, ∃ found,
      gate.validator.fieldError? (plan.bagAt request location) entry = some found ∧
        e = found.locate location := by
  obtain ⟨⟨location, fields⟩, hentry, invalid, hvalidate, hmem⟩ :=
    mem_errors_of_check_eq_error hcheck he
  obtain ⟨hfields, _⟩ := LocationRules.mem_nonempty.1 hentry
  obtain ⟨found, hfound, rfl⟩ := List.mem_map.1 hmem
  obtain ⟨entry, hrule, hfield⟩ := Checker.exists_of_validate_eq_error hvalidate hfound
  exact ⟨location, entry, hfields ▸ hrule, found, hfield, rfl⟩

/-- An invalid value is one that a check of a field fails on. -/
theorem exists_check_of_invalid {gate : Gate Checker} {request : GateRequest}
    {rejection : Rejection} (h : (gate.validate request).1 = .error rejection) {e : FieldError}
    (he : e ∈ rejection.errors) {message : String} (hinvalid : e.defect = .invalid message) :
    ∃ (place : Place) (rules : LocationRules),
      gate.compiled.rules.recorded? place.route place.verb = some (some rules) ∧
      ∃ entry ∈ rules.fieldsAt place.location, ∃ value,
        gate.validator.check entry.2 value = .error message := by
  unfold Gate.validate at h
  split at h
  · cases h
  · rename_i plan hplan
    have hcheck : (gate.check plan request).1 = .error rejection := by
      cases hresult : (gate.check plan request).1 with
      | ok => simp [hresult, Except.map] at h
      | error other => simpa [hresult, Except.map] using h
    obtain ⟨location, entry, hentry, found, hfield, rfl⟩ := exists_of_mem_errors hcheck he
    have hrules := (RuleTable.lookup?_eq_some_iff.1 (plan?_eq_some_iff.1 hplan).2.2).1
    refine ⟨⟨plan.route, plan.verb, location⟩, plan.rules, hrules, entry, hentry, ?_⟩
    exact Checker.exists_check_of_fieldError? hfield hinvalid

/-- A gate whose places are all acceptable never finds fault with its rules. -/
theorem neverFaultsRules_of_isAcceptable {gate : Gate Checker}
    (h : ∀ place : Place, place.IsAcceptable gate.compiled.rules) : gate.NeverFaultsRules := by
  constructor
  · intro place rules hrules entry hentry value message hcheck
    have hacceptable := h place rules hrules entry hentry
    exact (Checker.check_faultsValueOnly _ hacceptable value message hcheck).not_isRuleFault
  · intro place rules hrules entry hentry kind hkind value message hcheck
    have hacceptable := (h place rules hrules entry hentry).itemRule hkind
    exact (Checker.checkItem_faultsValueOnly _ hacceptable value message hcheck).not_isRuleFault
  · intro request rejection hvalidate e he message hinvalid
    obtain ⟨place, rules, hrules, entry, hentry, value, hcheck⟩ :=
      exists_check_of_invalid hvalidate he hinvalid
    have hacceptable := h place rules hrules entry hentry
    exact (Checker.check_faultsValueOnly _ hacceptable value message hcheck).not_isRuleFault

/-- A gate is started with the compiled description after its rules are vetted. -/
theorem prepare_eq {description : Description} {compiled : Compiled}
    (h : description.compile = .ok compiled) (settings : ValidationSettings) :
    prepare description settings =
      match prepareAll (Checker.fresh settings.convertStrings) (vetted compiled.rules) with
      | .ok checker => .ok ⟨compiled, checker, settings.mode⟩
      | .error refusal => .error (.rule refusal) := by
  unfold prepare
  rw [h]
  simp only
  unfold start
  cases prepareAll (Checker.fresh settings.convertStrings) (vetted compiled.rules) <;> rfl

/-- The gate of a description holds what the description compiles to. -/
theorem compile_of_prepare {description : Description} {settings : ValidationSettings}
    {gate : Gate Checker} (h : prepare description settings = .ok gate) :
    description.compile = .ok gate.compiled := by
  cases hcompile : description.compile with
  | error e =>
    unfold prepare at h
    rw [hcompile] at h
    cases h
  | ok compiled =>
    rw [prepare_eq hcompile] at h
    split at h
    · cases h
      rfl
    · cases h

/-- Vetting is exact: a gate starts exactly when all places are acceptable, and otherwise the refusal
names the first place that is not.  It is sufficient: a gate that has started never finds fault with
its rules. -/
theorem prepare_isExact {description : Description} {compiled : Compiled}
    (h : description.compile = .ok compiled) (settings : ValidationSettings) :
    ((∃ gate, prepare description settings = .ok gate) ↔
      ∀ place : Place, place.IsAcceptable compiled.rules) ∧
    (∀ e, prepare description settings = .error e → ∃ refusal, e = .rule refusal ∧
      ¬ refusal.place.IsAcceptable compiled.rules ∧
      ∀ place : Place, ¬ place.IsAcceptable compiled.rules →
        place = refusal.place ∨ refusal.place.Precedes place) ∧
    ∀ gate, prepare description settings = .ok gate → gate.NeverFaultsRules := by
  have hvetted := prepareAll_vetted (Description.ordered_compile h)
    (Checker.isSound_fresh settings.convertStrings)
  rw [prepare_eq h]
  cases hall : prepareAll (Checker.fresh settings.convertStrings) (vetted compiled.rules) with
  | ok checker =>
    rw [hall] at hvetted
    refine ⟨iff_of_true ⟨_, rfl⟩ hvetted, ?_, ?_⟩
    · intro e he
      cases he
    · intro gate hgate
      cases hgate
      exact neverFaultsRules_of_isAcceptable hvetted
  | error refusal =>
    rw [hall] at hvetted
    refine ⟨iff_of_false ?_ fun hplaces => hvetted.1 (hplaces refusal.place), ?_, ?_⟩
    · rintro ⟨gate, hgate⟩
      cases hgate
    · intro e he
      cases he
      exact ⟨refusal, rfl, hvetted⟩
    · intro gate hgate
      cases hgate

/-- Two operations, of which the second in the document has an array of items of an unknown kind and
the first an enumeration without values. -/
def unusable : Description where
  swagger := none
  openapi := none
  paths :=
    [("/users", ⟨fun
        | .get => some ⟨none, some [⟨some "order", some "query", some "enum", none, none, none, none⟩],
          none⟩
        | _ => none⟩),
      ("/pets", ⟨fun
        | .post => some ⟨none, some [⟨some "tags", some "formData", some "array", none, none, none,
          some (.object [("itemType", .string "colour")])⟩], none⟩
        | _ => none⟩)]

/-- The first unacceptable place in the order of routes is reported, not the first in the document. -/
theorem unusable_isRefused : ∃ compiled, unusable.compile = .ok compiled ∧
    ∃ refusal, prepare unusable .default = .error (.rule refusal) ∧
      refusal.place = ⟨"/pets", .post, .formData⟩ ∧
      ∀ place : Place, ¬ place.IsAcceptable compiled.rules →
        place = refusal.place ∨ refusal.place.Precedes place := by
  have hrefused : ∃ refusal, prepare unusable .default = .error (.rule refusal) ∧
      refusal.place = ⟨"/pets", .post, .formData⟩ := ⟨_, rfl, by decide⟩
  obtain ⟨refusal, hprepare, hplace⟩ := hrefused
  obtain ⟨_, hrule, _, hfirst⟩ := (prepare_isExact rfl .default).2.1 _ hprepare
  cases hrule
  exact ⟨_, rfl, refusal, hprepare, hplace, hfirst⟩

end Gate
end RequestGate
