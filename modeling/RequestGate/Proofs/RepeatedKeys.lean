import RequestGate.Proofs.ArrayItems
import RequestGate.Proofs.MissingFields

/-!
# Arrays that are sent by repeating a name

A query sends several values for a field by repeating its name.  They are grouped to an array of texts,
which coercion leaves as it is, and a rule for arrays of texts accepts it when the texts are not empty
and their number is within the bounds.  A name that stands once has its value itself, which is no array,
so a single item cannot be sent in this way.

Main results:

- Theorem `Checker.check_texts`: a rule for arrays of texts accepts texts that are not empty.
- Theorem `Gate.isAcceptedFor_iff`: when a check reports nothing for a field with a rule.
- Theorem `Gate.isAcceptedFor_repeated_iff`: a repeated name is accepted from the second value on.
- Theorem `Gate.isAcceptedFor_not_single`: a name that stands once is refused.
-/

namespace RequestGate

/-! ## Rules for arrays of texts -/

/-- A rule for an array of texts that need not match a pattern. -/
structure Rule.AsksForTexts (rule : Rule) : Prop where
  kind : rule.kind = some "array"
  itemType : rule.option? "itemType" = some (.string "string")
  format : rule.option? "format" = none

theorem Rule.AsksForTexts.bind_ofName? {rule : Rule} (h : rule.AsksForTexts) :
    rule.kind.bind Kind.ofName? = some .array := by
  rw [h.kind]
  rfl

namespace Checker

variable {checker : Checker} {rule : Rule}

/-- An item that is a text and not empty is accepted. -/
theorem check_itemRule_text (hrule : rule.AsksForTexts) {text : String} (htext : text ≠ "") :
    checker.check (itemRule rule "string") (.string text) = .ok () := by
  have hlength : checkLength (itemRule rule "string") text.length = .ok () :=
    checkLength_eq_ok_iff.2 (boundsLength_itemRule rule "string" text.length)
  have hformat : textOption? (itemRule rule "string") "format" = none := by
    unfold textOption?
    rw [option?_itemRule, if_pos (by decide), hrule.format]
    rfl
  have hstring : checker.check (itemRule rule "string") (.string text) =
      checkString checker (itemRule rule "string") (.string text) := rfl
  rw [hstring]
  unfold checkString checkPattern
  simp only [text?, if_neg htext, hlength, hformat]
  rfl

/-- A rule for arrays of texts accepts texts that are not empty when it admits their number. -/
theorem check_texts (hrule : rule.AsksForTexts) {texts : List String} (htexts : ∀ text ∈ texts, text ≠ "")
    (hlength : rule.AdmitsLength texts.length) :
    checker.check rule (Json.ofStrings texts) = .ok () := by
  rw [check_array_eq_ok_iff hrule.kind]
  refine ⟨texts.map .string, rfl, ?_, fun kind hkind item hitem => ?_⟩
  · rw [List.length_map]
    exact checkLength_eq_ok_iff.1 (checkLength_eq_ok hlength)
  · obtain rfl : "string" = kind :=
      Json.string.inj (Option.some.inj (hrule.itemType.symm.trans hkind))
    obtain ⟨text, htext, rfl⟩ := List.mem_map.1 hitem
    exact check_itemRule_text hrule (htexts text htext)

/-- A rule for arrays refuses any other value. -/
theorem check_eq_error_of_asArray?_eq_none (hrule : rule.AsksForTexts) {value : Json}
    (hvalue : value.asArray? = none) : checker.check rule value = .error "should be an array" := by
  rw [check_eq_checkKind hrule.bind_ofName?]
  unfold checkKind
  simp only [hvalue]

end Checker

/-! ## Acceptance of one field -/

/-- A rejection reports a field at a place. -/
def Rejection.Reports (rejection : Rejection) (location : Location) (field : String) : Prop :=
  ∃ e ∈ rejection.errors, e.location = some location ∧ e.field = field

namespace Gate

/-- A request is not rejected for a field at a place. -/
def IsAcceptedFor (gate : Gate Checker) (request : GateRequest) (location : Location)
    (field : String) : Prop :=
  ∀ rejection, (gate.validate request).1 = .error rejection → ¬ rejection.Reports location field

variable {gate : Gate Checker} {request : GateRequest} {plan : Plan}

/-- A request is accepted for a field with a rule when the check does not come to the place or when the
field does not fail. -/
theorem isAcceptedFor_iff (hplan : gate.plan? request.path request.method = some plan)
    {location : Location} (hdistinct : (plan.rules.fieldsAt location).Distinct)
    {field : String} {rule : Rule} (hrule : (field, rule) ∈ plan.rules.fieldsAt location) :
    gate.IsAcceptedFor request location field ↔
      (gate.Visits plan request location →
        gate.validator.fieldError? (plan.bagAt request location) (field, rule) = none) := by
  have hrejected : ∀ rejection, (gate.validate request).1 = .error rejection ↔
      (gate.check plan request).1 = .error rejection := by
    intro rejection
    rw [validate_of_plan? hplan]
    cases (gate.check plan request).1 <;> simp [Except.map]
  unfold IsAcceptedFor
  simp only [hrejected]
  constructor
  · intro haccepted hvisits
    rw [Option.eq_none_iff_forall_ne_some]
    intro found hfound
    obtain ⟨rejection, hcheck, he, hlocation⟩ :=
      exists_error_at_iff.2 ⟨hvisits, (field, rule), hrule, found, hfound, rfl⟩
    exact haccepted rejection hcheck ⟨_, he, hlocation, Checker.field_of_fieldError? hfound⟩
  · rintro hfine rejection hcheck ⟨e, he, hlocation, rfl⟩
    obtain ⟨hvisits, ⟨key, other⟩, hother, found, hfound, rfl⟩ :=
      exists_error_at_iff.1 ⟨rejection, hcheck, he, hlocation⟩
    obtain rfl : found.field = key := Checker.field_of_fieldError? hfound
    have hsame := ((Fields.get?_eq_some_iff_mem hdistinct).2 hother).symm.trans
      ((Fields.get?_eq_some_iff_mem hdistinct).2 hrule)
    obtain rfl : other = rule := Option.some.inj hsame
    exact absurd ((hfine hvisits).symm.trans hfound) nofun

/-- A check comes to the query first. -/
theorem visits_query {field : String} {rule : Rule} (hrule : (field, rule) ∈ plan.rules.query) :
    gate.Visits plan request .query := by
  have hnonempty : ∃ rest, plan.rules.nonempty = (.query, plan.rules.query) :: rest := by
    refine ⟨_, List.filter_cons_of_pos ?_⟩
    rw [Bool.not_eq_true', List.isEmpty_eq_false_iff]
    exact List.ne_nil_of_mem hrule
  obtain ⟨rest, hrest⟩ := hnonempty
  refine ⟨gate.call plan request (.query, plan.rules.query), ?_, rfl⟩
  unfold calls
  rw [hrest]
  exact List.mem_cons_self

/-! ## Repeated names -/

/-- A request repeats the name of a field in its query, once for each of some texts, in order; the name
and the texts may be written in any way that is read as such, and other pairs may stand between. -/
def SendsTexts (request : GateRequest) (field : String) (texts : List String) : Prop :=
  ∃ written : List Urlencoded.Written,
    request.query = Http.Bag.ofQuery (some (Urlencoded.query written)) ∧
      Http.Bag.valuesOf field (written.map Urlencoded.Written.pair) = texts

/-- What a check finds in the query for a repeated name. -/
theorem get?_bagAt_query (plan : Plan) {field : String} {texts : List String}
    (h : SendsTexts request field texts) :
    Fields.get? field (plan.bagAt request .query) =
      (Http.Bag.grouped? texts).map Coercion.field := by
  obtain ⟨written, hquery, rfl⟩ := h
  have hbag : Fields.get? field request.query =
      Http.Bag.grouped? (Http.Bag.valuesOf field (written.map Urlencoded.Written.pair)) := by
    rw [hquery, ← Http.Bag.get?_ofPairs, ← Urlencoded.pairs_query]
    rfl
  exact (Checker.get?_bag field request.query).trans (congrArg (Option.map Coercion.field) hbag)

/-- A request sends texts that are not empty for a field with a rule for arrays of texts, as many as the
rule admits. -/
structure RepeatsKey (gate : Gate Checker) (request : GateRequest) (field : String) (rule : Rule)
    (texts : List String) : Prop where
  planned : ∃ plan, gate.plan? request.path request.method = some plan ∧
    (field, rule) ∈ plan.rules.query
  asksForTexts : rule.AsksForTexts
  sent : SendsTexts request field texts
  texts_ne : ∀ text ∈ texts, text ≠ ""
  admitted : rule.AdmitsLength texts.length

/-- A gate that starts accepts a request for the field when the rule accepts what the values are grouped
to and coerced to. -/
theorem RepeatsKey.isAcceptedFor_iff {description : Description} {settings : ValidationSettings}
    (hprepare : prepare description settings = .ok gate) {field : String} {rule : Rule}
    {texts : List String} (h : gate.RepeatsKey request field rule texts) {value : Json}
    (hvalue : (Http.Bag.grouped? texts).map Coercion.field = some value) (hnull : value ≠ .null) :
    gate.IsAcceptedFor request .query field ↔ gate.validator.check rule value = .ok () := by
  obtain ⟨plan, hplan, hrule⟩ := h.planned
  have hdistinct : (plan.rules.fieldsAt .query).Distinct :=
    Description.distinct_fieldsAt_compile (compile_of_prepare hprepare)
      (RuleTable.lookup?_eq_some_iff.1 (plan?_eq_some_iff.1 hplan).2.2).1 .query
  have hget := (get?_bagAt_query plan h.sent).trans hvalue
  rw [Gate.isAcceptedFor_iff hplan hdistinct hrule, forall_prop_of_true (visits_query hrule),
    Checker.fieldError?_of_ne_null hget hnull]
  cases gate.validator.check rule value with
  | ok => exact iff_of_true rfl rfl
  | error message => exact iff_of_false nofun nofun

/-- A single value is coerced to a text, a number or a truth value, which is refused. -/
theorem RepeatsKey.not_isAcceptedFor_single {description : Description}
    {settings : ValidationSettings} (hprepare : prepare description settings = .ok gate)
    {field text : String} {rule : Rule} (h : gate.RepeatsKey request field rule [text]) :
    ¬ gate.IsAcceptedFor request .query field := by
  have harray : (Coercion.value text).asArray? = none := by
    rcases Coercion.value_cases text with ⟨_, _, _, _, h⟩ | ⟨_, h⟩ | ⟨_, h⟩ | h <;> rw [h] <;> rfl
  have hvalue : (Http.Bag.grouped? [text]).map Coercion.field = some (Coercion.value text) := rfl
  rw [h.isAcceptedFor_iff hprepare hvalue (Checker.value_ne_null text),
    Checker.check_eq_error_of_asArray?_eq_none h.asksForTexts harray]
  exact nofun

/-- The repeated name of a field is accepted when there are two values or more, and refused when there
is one. -/
theorem isAcceptedFor_repeated_iff {description : Description} {settings : ValidationSettings}
    (hprepare : prepare description settings = .ok gate) {field : String} {rule : Rule}
    {texts : List String} (h : gate.RepeatsKey request field rule texts) (hsome : texts ≠ []) :
    gate.IsAcceptedFor request .query field ↔ 2 ≤ texts.length := by
  match texts with
  | [] => exact absurd rfl hsome
  | [text] => exact iff_of_false (h.not_isAcceptedFor_single hprepare) (by simp)
  | first :: second :: more =>
    refine iff_of_true ?_ (by simp)
    have hnull : Json.ofStrings (first :: second :: more) ≠ .null := nofun
    rw [h.isAcceptedFor_iff hprepare rfl hnull]
    exact Checker.check_texts h.asksForTexts h.texts_ne h.admitted

/-- A description with an array of up to three tags in the query. -/
def tagged : Description where
  swagger := none
  openapi := none
  paths :=
    [("/posts", ⟨fun
        | .get => some ⟨none, some [
            ⟨some "tags", some "query", some "array", some true, none, none,
              some (.object [("itemType", .string "string"), ("max", Json.ofInt 3)])⟩], none⟩
        | _ => none⟩)]

/-- A request for posts with some tags, escaped, and with another pair before them. -/
def tagRequest (tags : List String) : GateRequest where
  path := "/posts"
  method := "GET"
  query := Http.Bag.ofQuery (some (Urlencoded.query
    (.escape "draft" "1" :: tags.map (Urlencoded.Written.escape "tags"))))
  headers := []
  pathParams := none
  body := []

/-- The tags of a request are sent. -/
theorem sendsTexts_tagRequest (tags : List String) : SendsTexts (tagRequest tags) "tags" tags := by
  refine ⟨_, rfl, ?_⟩
  have hpairs : (Urlencoded.Written.escape "draft" "1" ::
      tags.map (Urlencoded.Written.escape "tags")).map Urlencoded.Written.pair =
        [("draft", "1")] ++ tags.map ("tags", ·) := by
    rw [List.map_cons, List.map_map, Urlencoded.Written.pair_escape, List.singleton_append]
    exact congrArg _ (List.map_congr_left fun tag _ => Urlencoded.Written.pair_escape "tags" tag)
  rw [hpairs]
  exact Http.Bag.valuesOf_map_append (by decide) tags

/-- Posts are gated by a rule for up to three tags. -/
theorem repeatsKey_tagRequest {tags : List String} (htags : ∀ tag ∈ tags, tag ≠ "")
    (hlength : tags.length ≤ 3) : ∃ (gate : Gate Checker) (rule : Rule),
      prepare tagged .default = .ok gate ∧ gate.RepeatsKey (tagRequest tags) "tags" rule tags := by
  have hplanned : ∃ (gate : Gate Checker) (plan : Plan) (rule : Rule),
      prepare tagged .default = .ok gate ∧ gate.plan? "/posts" "GET" = some plan ∧
      plan.rules.query = [("tags", rule)] ∧ rule.AsksForTexts ∧ rule.option? "min" = none ∧
      rule.option? "max" = some (Json.ofInt 3) :=
    ⟨_, _, _, rfl, rfl, rfl, ⟨rfl, rfl, rfl⟩, rfl, rfl⟩
  obtain ⟨gate, plan, rule, hprepare, hplan, hquery, hasks, hmin, hmax⟩ := hplanned
  refine ⟨gate, rule, hprepare, ?_⟩
  constructor
  case planned => exact ⟨plan, hplan, hquery ▸ List.mem_singleton_self _⟩
  case asksForTexts => exact hasks
  case sent => exact sendsTexts_tagRequest tags
  case texts_ne => exact htags
  case admitted =>
    constructor
    · intro bound hbound
      exact nomatch hmin.symm.trans hbound
    · intro bound hbound
      obtain rfl : Number.integer 3 = bound :=
        Json.number.inj (Option.some.inj (hmax.symm.trans hbound))
      show (tags.length : ℚ) ≤ ((3 : Int) : ℚ)
      exact_mod_cast hlength

/-- Two tags are accepted, whatever characters they have. -/
theorem isAcceptedFor_tags : ∃ gate : Gate Checker, prepare tagged .default = .ok gate ∧
    gate.IsAcceptedFor (tagRequest ["a b", "=&%"]) .query "tags" := by
  obtain ⟨gate, rule, hprepare, hrepeats⟩ :=
    repeatsKey_tagRequest (by decide : ∀ tag ∈ ["a b", "=&%"], tag ≠ "") (by decide)
  exact ⟨gate, hprepare, (isAcceptedFor_repeated_iff hprepare hrepeats nofun).2 (by decide)⟩

/-- A name that stands once is refused although the rule admits arrays of one item. -/
theorem isAcceptedFor_not_single :
    ¬ ∀ (description : Description) (settings : ValidationSettings) (gate : Gate Checker)
      (request : GateRequest) (field : String) (rule : Rule) (texts : List String),
      prepare description settings = .ok gate → settings.convertStrings = true →
        gate.RepeatsKey request field rule texts → texts ≠ [] →
          gate.IsAcceptedFor request .query field := by
  intro h
  obtain ⟨gate, rule, hprepare, hrepeats⟩ :=
    repeatsKey_tagRequest (by decide : ∀ tag ∈ ["a"], tag ≠ "") (by decide)
  exact hrepeats.not_isAcceptedFor_single hprepare
    (h tagged .default gate _ _ _ _ hprepare rfl hrepeats nofun)

end Gate
end RequestGate
