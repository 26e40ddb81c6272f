import Mathlib.Data.List.Induction
import Mathlib.Data.List.Nodup
import RequestGate.Fields

/-!
# Tables built by insertion

The content of `Fields.ofList entries`: which names it holds in which order, and which value each
name has.  Insertion keeps every name once, and where that is so the entries are the values.

Main results:

- Theorem `Fields.names_ofList`: the names stand in the order of their first entries.
- Theorem `Fields.get?_ofList`: a name has the value of its last entry.
- Theorem `Fields.distinct_ofList`: a built table has every name once.
- Theorem `Fields.get?_eq_some_iff_mem`: where every name stands once, an entry is what its name is
  looked up to.
- Theorem `Fields.pairwise_idxOf_names`: where every name stands once, entries stand in the order of
  their names.
- Theorem `Fields.perm_of_get?_eq`: where every name stands once, looking up alike means having the same
  entries.
-/

namespace RequestGate
namespace Fields

variable {α β : Type}

/-- The value of the last entry with a name. -/
def lastOf (name : String) (entries : List (String × α)) : Option α :=
  ((entries.filter fun entry => entry.1 = name).getLast?).map Prod.snd

@[simp]
theorem lastOf_nil (name : String) : lastOf name ([] : List (String × α)) = none :=
  rfl

/-- A further entry is the last one of its name and leaves the other names alone. -/
theorem lastOf_append_singleton (name : String) (entries : List (String × α))
    (entry : String × α) :
    lastOf name (entries ++ [entry]) =
      if name = entry.1 then some entry.2 else lastOf name entries := by
  unfold lastOf
  rw [List.filter_append]
  by_cases h : name = entry.1
  · subst h
    simp
  · simp [h, Ne.symm h]

/-- Changing the values changes the last value. -/
theorem lastOf_map (name : String) (f : α → β) (entries : List (String × α)) :
    lastOf name (entries.map fun entry => (entry.1, f entry.2)) = (lastOf name entries).map f := by
  unfold lastOf
  rw [List.filter_map, List.getLast?_map, Option.map_map, Option.map_map]
  rfl

/-- Changing the values by their names changes the last value. -/
theorem lastOf_mapKeys (name : String) (f : String → α → β) (entries : List (String × α)) :
    lastOf name (entries.map fun entry => (entry.1, f entry.1 entry.2)) =
      (lastOf name entries).map (f name) := by
  induction entries using List.reverseRecOn with
  | nil => rfl
  | append_singleton entries entry ih =>
    rw [List.map_append, List.map_singleton, lastOf_append_singleton, lastOf_append_singleton, ih]
    split
    · rename_i hname
      rw [hname, Option.map_some]
    · rfl

/-- The last value of a name is that of an entry. -/
theorem mem_of_lastOf_eq_some {name : String} {entries : List (String × α)} {value : α}
    (h : lastOf name entries = some value) : (name, value) ∈ entries := by
  obtain ⟨⟨key, last⟩, hlast, rfl⟩ := Option.map_eq_some_iff.1 h
  obtain ⟨hmem, hkey⟩ := List.mem_filter.1 (List.mem_of_getLast? hlast)
  obtain rfl : key = name := of_decide_eq_true hkey
  exact hmem

/-- The value of a name is that of an entry. -/
theorem mem_of_get? {name : String} {fields : Fields α} {value : α}
    (h : get? name fields = some value) : (name, value) ∈ fields := by
  induction fields with
  | nil => cases h
  | cons entry rest ih =>
    obtain ⟨key, other⟩ := entry
    rw [get?_cons] at h
    split at h
    · rename_i hkey
      cases h
      rw [hkey]
      exact List.mem_cons_self
    · exact List.mem_cons_of_mem _ (ih h)

/-! ## Insertion one after another -/

/-- A table with further entries inserted one after another. -/
def insertAll (fields : Fields α) (entries : List (String × α)) : Fields α :=
  entries.foldl (fun fields entry => insert entry.1 entry.2 fields) fields

@[simp]
theorem insertAll_nil (fields : Fields α) : insertAll fields [] = fields :=
  rfl

theorem insertAll_append (fields : Fields α) (first second : List (String × α)) :
    insertAll fields (first ++ second) = insertAll (insertAll fields first) second :=
  List.foldl_append

theorem insertAll_append_singleton (fields : Fields α) (entries : List (String × α))
    (entry : String × α) :
    insertAll fields (entries ++ [entry]) = insert entry.1 entry.2 (insertAll fields entries) :=
  insertAll_append fields entries [entry]

theorem ofList_append (first second : List (String × α)) :
    ofList (first ++ second) = insertAll (ofList first) second :=
  insertAll_append [] first second

theorem ofList_append_singleton (entries : List (String × α)) (entry : String × α) :
    ofList (entries ++ [entry]) = insert entry.1 entry.2 (ofList entries) :=
  insertAll_append_singleton [] entries entry

/-- The names of a built table stand in the order of their first entries, each once. -/
theorem names_ofList (entries : List (String × α)) :
    (ofList entries).names = (entries.map Prod.fst).eraseDups := by
  induction entries using List.reverseRecOn with
  | nil => rfl
  | append_singleton entries entry ih =>
    rw [ofList_append_singleton, names_insert, ih, List.map_append, List.eraseDups_append]
    by_cases h : entry.1 ∈ entries.map Prod.fst
    · have hkept : entry.1 ∈ (entries.map Prod.fst).eraseDups := List.mem_eraseDups.2 h
      rw [if_pos hkept]
      simp [List.removeAll, h]
    · have hnew : entry.1 ∉ (entries.map Prod.fst).eraseDups := fun hm =>
        h (List.mem_eraseDups.1 hm)
      rw [if_neg hnew]
      simp [List.removeAll, List.eraseDups_cons, h]

/-- A name of a built table has the value of its last entry. -/
theorem get?_ofList (name : String) (entries : List (String × α)) :
    get? name (ofList entries) = lastOf name entries := by
  induction entries using List.reverseRecOn with
  | nil => rfl
  | append_singleton entries entry ih =>
    rw [ofList_append_singleton, get?_insert, lastOf_append_singleton, ih]

/-- A built table has every name once. -/
theorem distinct_ofList (entries : List (String × α)) : (ofList entries).Distinct := by
  induction entries using List.reverseRecOn with
  | nil => exact List.nodup_nil
  | append_singleton entries entry ih =>
    rw [ofList_append_singleton]
    exact distinct_insert ih entry.1 entry.2

/-- Names without repetition are the names of a built table. -/
theorem nodup_eraseDups (names : List String) : names.eraseDups.Nodup := by
  have hdistinct := distinct_ofList (names.map fun name => (name, ()))
  unfold Distinct at hdistinct
  rw [names_ofList, List.map_map] at hdistinct
  exact (List.map_id names) ▸ hdistinct

/-! ## Names that are taken out -/

/-- A new name is inserted at the end. -/
theorem insert_of_get?_eq_none {name : String} {fields : Fields α} (h : get? name fields = none)
    (value : α) : insert name value fields = fields ++ [(name, value)] := by
  unfold insert contains
  rw [h]
  rfl

/-- A name that does not occur is erased by leaving everything as it is. -/
theorem erase_of_notMem {name : String} {fields : Fields α} (h : name ∉ fields.names) :
    erase name fields = fields := by
  unfold erase
  rw [List.filter_eq_self]
  intro entry hentry
  exact decide_eq_true fun hname => h (hname ▸ List.mem_map_of_mem hentry)

theorem erase_cons_self (name : String) (value : α) (rest : Fields α) :
    erase name ((name, value) :: rest) = erase name rest := by
  unfold erase
  rw [List.filter_cons_of_neg (by simp)]

theorem erase_cons_of_ne {name key : String} (h : key ≠ name) (value : α) (rest : Fields α) :
    erase name ((key, value) :: rest) = (key, value) :: erase name rest := by
  unfold erase
  rw [List.filter_cons_of_pos (by simp [h])]

/-- Erasing a name leaves the values of the others. -/
theorem get?_erase_of_ne {name other : String} (h : other ≠ name) (fields : Fields α) :
    get? other (erase name fields) = get? other fields := by
  induction fields with
  | nil => rfl
  | cons entry rest ih =>
    obtain ⟨key, value⟩ := entry
    by_cases hkey : key = name
    · subst hkey
      rw [erase_cons_self, ih, get?_cons, if_neg (Ne.symm h)]
    · rw [erase_cons_of_ne hkey, get?_cons, get?_cons, ih]

theorem get?_erase_self (name : String) (fields : Fields α) : get? name (erase name fields) = none := by
  rw [get?_eq_none_iff]
  intro hmem
  obtain ⟨entry, hentry, hname⟩ := List.mem_map.1 hmem
  exact of_decide_eq_true (List.mem_filter.1 hentry).2 hname

theorem distinct_erase {fields : Fields α} (h : fields.Distinct) (name : String) :
    (erase name fields).Distinct := by
  unfold Distinct names erase at *
  exact h.sublist (List.filter_sublist.map Prod.fst)

/-! ## Tables with every name once -/

/-- In a table with every name once, an entry is what its name is looked up to. -/
theorem get?_eq_some_iff_mem {fields : Fields α} (hdistinct : fields.Distinct) {name : String}
    {value : α} : get? name fields = some value ↔ (name, value) ∈ fields := by
  induction fields with
  | nil => simp
  | cons entry rest ih =>
    obtain ⟨key, other⟩ := entry
    have hparts := List.nodup_cons.1 (show (key :: names rest).Nodup from hdistinct)
    rw [get?_cons, List.mem_cons]
    by_cases h : key = name
    · subst h
      have hnot : (key, value) ∉ rest := fun hm => hparts.1 (List.mem_map_of_mem hm)
      simp [hnot, eq_comm]
    · rw [if_neg h, ih hparts.2]
      simp [Ne.symm h]

/-- A table is built of its own entries, when it has every name once. -/
theorem ofList_of_distinct {entries : Fields α} (h : entries.Distinct) :
    ofList entries = entries := by
  induction entries using List.reverseRecOn with
  | nil => rfl
  | append_singleton entries entry ih =>
    unfold Distinct names at h
    rw [List.map_append, List.nodup_append] at h
    have hnew : get? entry.1 entries = none := by
      rw [get?_eq_none_iff]
      exact fun hmem => h.2.2 _ hmem _ (List.mem_singleton.2 rfl) rfl
    rw [ofList_append_singleton, ih h.1, insert_of_get?_eq_none hnew]

/-- In a table with every name once, the entries stand in the order of the positions of their
names. -/
theorem pairwise_idxOf_names {fields : Fields α} (hdistinct : fields.Distinct) :
    fields.Pairwise fun a b => fields.names.idxOf a.1 < fields.names.idxOf b.1 := by
  have hposition : ∀ i (hi : i < fields.length), fields.names.idxOf fields[i].1 = i := by
    intro i hi
    have hnames : i < fields.names.length := by
      rw [names, List.length_map]
      exact hi
    have hname : fields.names[i] = fields[i].1 := List.getElem_map _
    rw [← hname]
    exact List.Nodup.idxOf_getElem hdistinct i hnames
  rw [List.pairwise_iff_getElem]
  intro i j hi hj hij
  rw [hposition i hi, hposition j hj]
  exact hij

/-- Tables with every name once that look every name up alike hold the same entries. -/
theorem perm_of_get?_eq {first second : Fields α} (hfirst : first.Distinct)
    (hsecond : second.Distinct) (h : ∀ name, get? name first = get? name second) :
    first.Perm second := by
  rw [List.perm_ext_iff_of_nodup (List.Nodup.of_map _ hfirst) (List.Nodup.of_map _ hsecond)]
  rintro ⟨name, value⟩
  rw [← get?_eq_some_iff_mem hfirst, ← get?_eq_some_iff_mem hsecond, h name]

/-- Tables with the same names in the same order, every name once, are equal when they look every name
up alike. -/
theorem eq_of_names_eq {first second : Fields α} (hdistinct : first.Distinct)
    (hnames : first.names = second.names) (h : ∀ name, get? name first = get? name second) :
    first = second := by
  induction first generalizing second with
  | nil =>
    cases second with
    | nil => rfl
    | cons entry rest => cases hnames
  | cons entry rest ih =>
    cases second with
    | nil => cases hnames
    | cons other more =>
      obtain ⟨key, value⟩ := entry
      obtain ⟨otherKey, otherValue⟩ := other
      obtain ⟨hkey, hrest⟩ : key = otherKey ∧ names rest = names more := List.cons.inj hnames
      subst hkey
      have hparts := List.nodup_cons.1 (show (key :: names rest).Nodup from hdistinct)
      have hvalue : value = otherValue := by simpa [get?_cons] using h key
      rw [hvalue, ih hparts.2 hrest]
      intro name
      by_cases hname : key = name
      · subst hname
        have hnew : key ∉ names more := hrest ▸ hparts.1
        rw [get?_eq_none_iff.2 hparts.1, get?_eq_none_iff.2 hnew]
      · simpa [get?_cons, hname] using h name

end Fields
end RequestGate
