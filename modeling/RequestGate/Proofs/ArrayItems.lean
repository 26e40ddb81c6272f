import RequestGate.Proofs.Bounds
import RequestGate.Proofs.Fallible

/-!
# Arrays and their items

A rule for arrays asks for an array, for its length, and for each of its items when it names a kind of
items.  An item is checked with a rule of its own that names no kind for items of items, so a check that
checks items by itself comes to its end one level below the array, however deep the value is nested.
The bounds of an array are about its length only, and an item that is `null` is checked like any other,
whereas a field that is `null` is not.

Main results:

- Theorem `Checker.checkItems_eq_error_iff`: a run over items fails with the first item that fails.
- Theorem `Checker.eq_check_of_checksItself`: checking is the only way of checking items by itself.
- Theorem `Checker.checksArrays`: what a rule for arrays asks of a value.
-/

namespace RequestGate

namespace Checker

/-! ## Runs over items -/

/-- The item at a position fails a check for a reason, and those before it do not fail. -/
structure FailsFirstAt (check : Json → Check) (items : List Json) (position : Nat) (reason : String) :
    Prop where
  fails : ∃ item, items[position]? = some item ∧ check item = .error reason
  earlier : ∀ i < position, ∀ item, items[i]? = some item → check item = .ok ()

section Run

variable {check : Json → Check} {item : Json} {items : List Json} {reason : String}

theorem failsFirstAt_zero :
    FailsFirstAt check (item :: items) 0 reason ↔ check item = .error reason := by
  constructor
  · rintro ⟨⟨found, hfound, hfails⟩, _⟩
    obtain rfl : item = found := Option.some.inj hfound
    exact hfails
  · intro h
    exact ⟨⟨item, rfl, h⟩, fun _ hi => absurd hi (Nat.not_lt_zero _)⟩

theorem failsFirstAt_succ {position : Nat} :
    FailsFirstAt check (item :: items) (position + 1) reason ↔
      check item = .ok () ∧ FailsFirstAt check items position reason := by
  constructor
  · rintro ⟨hfails, hearlier⟩
    refine ⟨hearlier 0 position.succ_pos item rfl, hfails, fun i hi found hfound => ?_⟩
    exact hearlier (i + 1) (Nat.succ_lt_succ hi) found hfound
  · rintro ⟨hitem, hfails, hearlier⟩
    refine ⟨hfails, fun i hi found hfound => ?_⟩
    cases i with
    | zero =>
      obtain rfl : item = found := Option.some.inj hfound
      exact hitem
    | succ i => exact hearlier i (Nat.lt_of_succ_lt_succ hi) found hfound

/-- A run over items succeeds when the check of each of them does. -/
theorem checkItems_eq_ok_iff {position : Nat} :
    checkItems check position items = .ok () ↔ ∀ item ∈ items, check item = .ok () := by
  induction items generalizing position with
  | nil => exact iff_of_true rfl fun _ hmem => absurd hmem List.not_mem_nil
  | cons item items ih =>
    rw [List.forall_mem_cons]
    unfold checkItems
    cases check item with
    | ok => simp only [ih, true_and]
    | error reason => simp only [reduceCtorEq, false_and]

/-- A run over items fails with the reason of the first item that fails, at its position. -/
theorem checkItems_eq_error_iff {start : Nat} {message : String} :
    checkItems check start items = .error message ↔ ∃ i reason, FailsFirstAt check items i reason ∧
      message = "item " ++ toString (start + i) ++ ": " ++ reason := by
  induction items generalizing start with
  | nil =>
    refine iff_of_false nofun ?_
    rintro ⟨_, _, ⟨⟨_, hnone, _⟩, _⟩, _⟩
    exact nomatch hnone
  | cons item items ih =>
    -- Either the item fails itself, or the positions of the others are one less among themselves.
    have hsplit : (∃ i reason, FailsFirstAt check (item :: items) i reason ∧
        message = "item " ++ toString (start + i) ++ ": " ++ reason) ↔
      (∃ reason, check item = .error reason ∧
        message = "item " ++ toString start ++ ": " ++ reason) ∨
      (check item = .ok () ∧ ∃ i reason, FailsFirstAt check items i reason ∧
        message = "item " ++ toString (start + 1 + i) ++ ": " ++ reason) := by
      constructor
      · rintro ⟨i, reason, hfirst, hmessage⟩
        cases i with
        | zero => exact Or.inl ⟨reason, failsFirstAt_zero.1 hfirst, hmessage⟩
        | succ i =>
          obtain ⟨hitem, hfirst⟩ := failsFirstAt_succ.1 hfirst
          rw [Nat.add_comm i, ← Nat.add_assoc] at hmessage
          exact Or.inr ⟨hitem, i, reason, hfirst, hmessage⟩
      · rintro (⟨reason, hitem, hmessage⟩ | ⟨hitem, i, reason, hfirst, hmessage⟩)
        · exact ⟨0, reason, failsFirstAt_zero.2 hitem, hmessage⟩
        · rw [Nat.add_assoc, Nat.add_comm 1] at hmessage
          exact ⟨i + 1, reason, failsFirstAt_succ.2 ⟨hitem, hfirst⟩, hmessage⟩
    rw [hsplit]
    unfold checkItems
    cases hitem : check item with
    | ok => simp [ih]
    | error reason => simp [eq_comm]

end Run

/-! ## Rules for items -/

/-- A rule is derived for items of a kind: it has the kind, is marked as required, and keeps three of the
options of the rule of the array and no others. -/
structure IsDerivedFor (derived rule : Rule) (kind : String) : Prop where
  kind : derived.kind = some kind
  required : derived.required = true
  kept : ∀ key ∈ ["values", "format", "allowEmpty"], derived.option? key = rule.option? key
  dropped : ∀ key ∉ ["values", "format", "allowEmpty"], derived.option? key = none

theorem isDerivedFor_itemRule (rule : Rule) (kind : String) :
    IsDerivedFor (itemRule rule kind) rule kind where
  kind := rfl
  required := rfl
  kept := fun key hkey => (option?_itemRule rule kind key).trans (if_pos hkey)
  dropped := fun key hkey => (option?_itemRule rule kind key).trans (if_neg hkey)

/-- Rules that agree on the options for items derive the same rule. -/
theorem itemRule_congr {rule other : Rule}
    (h : ∀ key ∈ ["values", "format", "allowEmpty"], other.option? key = rule.option? key)
    (kind : String) : itemRule other kind = itemRule rule kind := by
  have hoptions : ["values", "format", "allowEmpty"].filterMap (fun key =>
      (other.option? key).map (key, ·)) =
        ["values", "format", "allowEmpty"].filterMap fun key => (rule.option? key).map (key, ·) :=
    List.filterMap_congr fun key hkey => by rw [h key hkey]
  unfold itemRule
  rw [hoptions]

/-- A derived rule names no kind for items of items. -/
theorem textOption?_itemRule (rule : Rule) (kind : String) :
    textOption? (itemRule rule kind) "itemType" = none := by
  unfold textOption?
  rw [(isDerivedFor_itemRule rule kind).dropped "itemType" (by decide)]
  rfl

section Recursion

variable {checker : Checker} {rule : Rule}

/-- A check looks at the check of items for the derived rule only. -/
theorem checkWith_congr {first second : Rule → Json → Check}
    (h : ∀ kind, textOption? rule "itemType" = some kind →
      first (itemRule rule kind) = second (itemRule rule kind)) (value : Json) :
    checkWith checker first rule value = checkWith checker second rule value := by
  have hkind : ∀ kind,
      checkKind checker rule first value kind = checkKind checker rule second value kind := by
    intro kind
    -- Only arrays have items; every other kind is checked without the check of items.
    cases kind with
    | array =>
      unfold checkKind
      cases value.asArray? with
      | none => rfl
      | some items =>
        cases hitems : textOption? rule "itemType" with
        | none => rfl
        | some kind => simp only [h kind hitems]
    | integer | number | string | boolean | object | enumeration | email | url | date | dateTime | id
    | file => rfl
  unfold checkWith
  simp only [hkind]

/-- What would be asked of items of items is never asked. -/
theorem checkWith_itemRule (first second : Rule → Json → Check) (kind : String) (value : Json) :
    checkWith checker first (itemRule rule kind) value =
      checkWith checker second (itemRule rule kind) value :=
  checkWith_congr (fun _ hkind => nomatch (textOption?_itemRule rule kind).symm.trans hkind) value

/-- A check checks items by itself. -/
theorem check_eq_checkWith_check (value : Json) :
    checker.check rule value = checkWith checker checker.check rule value :=
  checkWith_congr (fun kind _ => funext fun item => checkWith_itemRule _ _ kind item) value

/-- The recursion of checking is one level deep, whatever is done below. -/
theorem checkWith_checkWith (deeper : Rule → Json → Check) (value : Json) :
    checkWith checker (checkWith checker deeper) rule value = checker.check rule value :=
  checkWith_congr (fun kind _ => funext fun item => checkWith_itemRule _ _ kind item) value

/-- Checking is the only way of checking items by itself. -/
theorem eq_check_of_checksItself {f : Rule → Json → Check}
    (h : ∀ rule value, f rule value = checkWith checker f rule value) : f = checker.check := by
  have hf : checkWith checker f = f := funext fun rule => funext fun value => (h rule value).symm
  funext rule value
  -- Two levels of the equation are all that a check has.
  calc f rule value = checkWith checker f rule value := h rule value
    _ = checkWith checker (checkWith checker f) rule value := by simp only [hf]
    _ = checker.check rule value := checkWith_checkWith f value

end Recursion

/-! ## Rules for arrays -/

section Arrays

variable {checker : Checker} {rule : Rule}

/-- An array is checked for its length and then item by item. -/
theorem check_array (hkind : rule.kind = some "array") (items : List Json) :
    checker.check rule (.array items) = (do
      checkLength rule items.length
      match textOption? rule "itemType" with
      | some kind => checkItems (checker.check (itemRule rule kind)) 0 items
      | none => .ok ()) := by
  rw [check_eq_checkWith_check]
  unfold checkWith
  rw [hkind]
  rfl

/-- A rule for arrays accepts the arrays of a length within its bounds whose items are all accepted. -/
theorem check_array_eq_ok_iff (hkind : rule.kind = some "array") {value : Json} :
    checker.check rule value = .ok () ↔ ∃ items, value = .array items ∧
      rule.BoundsLength items.length ∧ ∀ kind, rule.option? "itemType" = some (.string kind) →
        ∀ item ∈ items, checker.check (itemRule rule kind) item = .ok () := by
  have harray : rule.kind.bind Kind.ofName? = some .array := by rw [hkind]; rfl
  cases value with
  | null | bool | number | string | object =>
    rw [check_eq_checkKind harray]
    exact iff_of_false nofun nofun
  | array items =>
    rw [check_array hkind, Fallible.bind_eq_ok_iff, Unique.exists_iff]
    simp only [PUnit.default_eq_unit, checkLength_eq_ok_iff, ← textOption?_eq_some_iff,
      Json.array.injEq, exists_eq_left']
    refine and_congr_right fun _ => ?_
    cases textOption? rule "itemType" with
    | none => simp
    | some kind => simp [checkItems_eq_ok_iff]

/-- Where the length of an array is within the bounds, the first item that fails is reported. -/
theorem check_array_eq_error_iff (hkind : rule.kind = some "array") {items : List Json}
    (hlength : rule.BoundsLength items.length) {kind : String}
    (hitems : rule.option? "itemType" = some (.string kind)) {message : String} :
    checker.check rule (.array items) = .error message ↔ ∃ i reason,
      FailsFirstAt (checker.check (itemRule rule kind)) items i reason ∧
        message = "item " ++ toString i ++ ": " ++ reason := by
  have hrun : checker.check rule (.array items) =
      checkItems (checker.check (itemRule rule kind)) 0 items := by
    rw [check_array hkind, checkLength_eq_ok_iff.2 hlength, textOption?_eq_some_iff.2 hitems]
    rfl
  rw [hrun, checkItems_eq_error_iff]
  simp only [Nat.zero_add]

/-- The bounds of an array are no bounds of the arrays in it. -/
theorem boundsLength_itemRule (rule : Rule) (kind : String) (length : Nat) :
    (itemRule rule kind).BoundsLength length := by
  have hdropped := (isDerivedFor_itemRule rule kind).dropped
  constructor
  · rw [hdropped "min" (by decide)]
    exact fun _ hbound => nomatch hbound
  · rw [hdropped "max" (by decide)]
    exact fun _ hbound => nomatch hbound

/-- An item that should be an array is accepted whatever its own items are. -/
theorem check_itemRule_array {item : Json} :
    checker.check (itemRule rule "array") item = .ok () ↔ ∃ inner, item = .array inner := by
  have hnone := (isDerivedFor_itemRule rule "array").dropped "itemType" (by decide)
  rw [check_array_eq_ok_iff rfl]
  simp only [hnone, boundsLength_itemRule, reduceCtorEq, false_implies, implies_true,
    and_true]

end Arrays

/-! ## Items that are `null` -/

theorem ofName?_eq_file_iff {name : String} : Kind.ofName? name = some .file ↔ name = "file" := by
  constructor
  · intro h
    unfold Kind.ofName? at h
    split at h <;> first | rfl | cases h
  · rintro rfl
    rfl

/-- Only `null` is the same as `null`. -/
theorem same_null_iff {value : Json} : Json.null.same value = true ↔ value = .null := by
  cases value <;> simp [Json.same]

/-- An item that is `null` is accepted as a file, and as one of the values of an enumeration that lists
it; no other kind of items admits it. -/
theorem check_itemRule_null {checker : Checker} {rule : Rule} {kind : String} :
    checker.check (itemRule rule kind) .null = .ok () ↔
      kind = "file" ∨ kind = "enum" ∧ ∃ values, rule.option? "values" = some (.array values) ∧
        Json.null ∈ values := by
  have hvalues := (isDerivedFor_itemRule rule kind).kept "values" (by decide)
  rw [← ofName?_eq_file_iff, ← Kind.ofName?_eq_enumeration_iff]
  cases hname : Kind.ofName? kind with
  | none =>
    refine iff_of_false ?_ (by simp)
    unfold check checkWith
    simp [itemRule, hname]
  | some found =>
    have hfound : (itemRule rule kind).kind.bind Kind.ofName? = some found := hname
    rw [check_eq_checkKind hfound]
    cases found with
    | file => exact iff_of_true rfl (Or.inl rfl)
    | enumeration =>
      have hcheck : checkKind checker (itemRule rule kind) checker.checkItem .null .enumeration =
          checkEnumeration (itemRule rule kind) .null := rfl
      rw [hcheck]
      unfold checkEnumeration
      rw [hvalues]
      cases hgiven : (rule.option? "values").bind Json.asArray? with
      | none =>
        refine iff_of_false nofun ?_
        rintro (h | ⟨_, values, h, _⟩)
        · cases h
        · exact nomatch hgiven.symm.trans (asArray?_eq_some_iff.2 h)
      | some values =>
        rw [asArray?_eq_some_iff] at hgiven
        simp [ensure_eq_ok_iff, same_null_iff, hgiven]
    | integer | number | string | boolean | array | object | email | url | date | dateTime | id =>
      exact iff_of_false nofun (by simp)

/-! ## What a rule for arrays asks -/

/-- A rule for arrays asks for an array, for its length and for its items, and for nothing below them. -/
structure ChecksArrays (checker : Checker) (rule : Rule) : Prop where
  /-- A value is accepted when it is an array, its length is within the bounds and every item is accepted
  by the derived rule, in case the rule names a kind of items. -/
  accepts : ∀ value, checker.check rule value = .ok () ↔ ∃ items, value = .array items ∧
    rule.BoundsLength items.length ∧ ∀ kind, rule.option? "itemType" = some (.string kind) →
      ∀ item ∈ items, checker.check (itemRule rule kind) item = .ok ()
  /-- A length below `2 ^ 53` is compared with the bounds as they are written. -/
  exact_lengths : rule.HasBoundsInRange → ∀ length, length < 2 ^ 53 →
    (rule.BoundsLength length ↔ rule.AdmitsLength length)
  /-- Where only items fail, the first of them is reported with its position. -/
  reports : ∀ items kind, rule.BoundsLength items.length →
    rule.option? "itemType" = some (.string kind) → ∀ message,
      checker.check rule (.array items) = .error message ↔ ∃ i reason,
        FailsFirstAt (checker.check (itemRule rule kind)) items i reason ∧
          message = "item " ++ toString i ++ ": " ++ reason
  /-- The derived rule has the kind of the items and three options of the rule, and no others. -/
  derived : ∀ kind, IsDerivedFor (itemRule rule kind) rule kind
  /-- Items are checked by the check itself. -/
  recursive : ∀ value, checker.check rule value = checkWith checker checker.check rule value
  /-- Nothing is asked of the items of items, whatever the check of those would be. -/
  one_level : ∀ deeper value,
    checkWith checker (checkWith checker deeper) rule value = checker.check rule value
  /-- Items that should be arrays are accepted whatever their own items and lengths are. -/
  nested : ∀ item, checker.check (itemRule rule "array") item = .ok () ↔ ∃ inner, item = .array inner
  /-- The bounds of the rule have no effect on its items, nor has any option but the three. -/
  bounds_stay : ∀ other : Rule, (∀ key ∈ ["values", "format", "allowEmpty"],
    other.option? key = rule.option? key) → ∀ kind, itemRule other kind = itemRule rule kind
  /-- An item that is `null` is checked: of the kinds of items only files and enumerations admit it. -/
  nulls : ∀ kind, checker.check (itemRule rule kind) .null = .ok () ↔
    kind = "file" ∨ kind = "enum" ∧ ∃ values, rule.option? "values" = some (.array values) ∧
      Json.null ∈ values

theorem checksArrays {checker : Checker} {rule : Rule} (hkind : rule.kind = some "array") :
    checker.ChecksArrays rule where
  accepts := fun _ => check_array_eq_ok_iff hkind
  exact_lengths := fun hrange _ hlength => boundsLength_iff_admitsLength hrange hlength
  reports := fun _ _ hlength hitems _ => check_array_eq_error_iff hkind hlength hitems
  derived := isDerivedFor_itemRule rule
  recursive := check_eq_checkWith_check
  one_level := checkWith_checkWith
  nested := fun _ => check_itemRule_array
  bounds_stay := fun _ hsame kind => itemRule_congr hsame kind
  nulls := fun _ => check_itemRule_null

/-- A rule for up to two tags. -/
def tagsRule : Rule :=
  ⟨some "array", true, [("itemType", .string "string"), ("max", Json.ofInt 2)]⟩

/-- A tag that is `null` is reported at its position, and what comes after it is not. -/
theorem tagsRule_checksArrays : tagsRule.kind = some "array" ∧
    (Checker.fresh true).check tagsRule (.array [.string "a", .null]) =
      .error "item 1: should be a string" := by
  have hlength : tagsRule.BoundsLength [Json.string "a", .null].length :=
    checkLength_eq_ok_iff.1 (by decide +kernel)
  have hchecks : (Checker.fresh true).ChecksArrays tagsRule := checksArrays rfl
  refine ⟨rfl, (hchecks.reports _ "string" hlength rfl _).2
    ⟨1, "should be a string", ⟨⟨.null, rfl, rfl⟩, ?_⟩, rfl⟩⟩
  intro i hi item hitem
  obtain rfl := Nat.lt_one_iff.1 hi
  obtain rfl : Json.string "a" = item := Option.some.inj hitem
  rfl

end Checker
end RequestGate
