/-!
# Tables in order of first insertion

`Fields α` lists named values in the order in which the names were first given.  `insert` replaces
the value of a known name where it stands and appends an unknown one, so a table built by `insert`
holds every name once (`distinct_insert`) and its last value.
-/

namespace RequestGate

/-- Named values, each name in the place of its first insertion. -/
abbrev Fields (α : Type) := List (String × α)

namespace Fields

variable {α β : Type}

/-- The names, in order. -/
def names (fields : Fields α) : List String :=
  fields.map Prod.fst

/-- Every name occurs once. -/
def Distinct (fields : Fields α) : Prop :=
  fields.names.Nodup

/-- The value of a name. -/
def get? (name : String) : Fields α → Option α
  | [] => none
  | (key, value) :: rest => if key = name then some value else get? name rest

/-- Whether the table has a value for the name. -/
def contains (name : String) (fields : Fields α) : Bool :=
  (get? name fields).isSome

/-- Replaces the value of a name by a function of it; the table is unchanged when the name is
unknown. -/
def update (name : String) (f : α → α) (fields : Fields α) : Fields α :=
  fields.map fun entry => if entry.1 = name then (entry.1, f entry.2) else entry

/-- Gives a name a value: in its place when it is known, at the end otherwise. -/
def insert (name : String) (value : α) (fields : Fields α) : Fields α :=
  if contains name fields then update name (fun _ => value) fields else fields ++ [(name, value)]

/-- The table of the entries inserted one after another. -/
def ofList (entries : List (String × α)) : Fields α :=
  entries.foldl (fun fields entry => insert entry.1 entry.2 fields) []

/-- The table without a name. -/
def erase (name : String) (fields : Fields α) : Fields α :=
  fields.filter fun entry => entry.1 ≠ name

@[simp]
theorem get?_nil (name : String) : get? name ([] : Fields α) = none :=
  rfl

theorem get?_cons (name key : String) (value : α) (rest : Fields α) :
    get? name ((key, value) :: rest) = if key = name then some value else get? name rest :=
  rfl

theorem get?_eq_none_iff {name : String} {fields : Fields α} :
    get? name fields = none ↔ name ∉ fields.names := by
  induction fields with
  | nil => simp [names]
  | cons entry rest ih =>
    obtain ⟨key, value⟩ := entry
    rw [get?_cons]
    by_cases h : key = name
    · simp [h, names]
    · simp only [h, if_false, ih]
      simp [names, Ne.symm h]

theorem contains_iff {name : String} {fields : Fields α} :
    contains name fields = true ↔ name ∈ fields.names := by
  rw [contains, ← Decidable.not_iff_not, ← get?_eq_none_iff]
  cases get? name fields <;> simp

theorem get?_append (name : String) (first second : Fields α) :
    get? name (first ++ second) = (get? name first).or (get? name second) := by
  induction first with
  | nil => simp
  | cons entry rest ih =>
    obtain ⟨key, value⟩ := entry
    rw [List.cons_append, get?_cons, get?_cons]
    split <;> simp [ih]

@[simp]
theorem names_update (name : String) (f : α → α) (fields : Fields α) :
    (update name f fields).names = fields.names := by
  simp only [names, update, List.map_map]
  apply List.map_congr_left
  intro entry _
  simp only [Function.comp_apply]
  split <;> rfl

theorem get?_update (name other : String) (f : α → α) (fields : Fields α) :
    get? other (update name f fields) =
      if other = name then (get? other fields).map f else get? other fields := by
  induction fields with
  | nil => simp [update]
  | cons entry rest ih =>
    obtain ⟨key, value⟩ := entry
    have hcons : update name f ((key, value) :: rest) =
        (if key = name then (key, f value) else (key, value)) :: update name f rest := rfl
    rw [hcons]
    by_cases hk : key = name
    · subst hk
      simp only [if_true, get?_cons, ih]
      by_cases ho : other = key
      · subst ho; simp
      · simp [ho, Ne.symm ho]
    · simp only [hk, if_false, get?_cons, ih]
      by_cases ho : other = name
      · subst ho; simp [hk]
      · simp [ho]

/-- Inserting sets the value of the name and leaves every other value. -/
theorem get?_insert (name other : String) (value : α) (fields : Fields α) :
    get? other (insert name value fields) =
      if other = name then some value else get? other fields := by
  unfold insert
  split
  · rename_i h
    rw [get?_update]
    split
    · rename_i hn
      subst hn
      rw [contains] at h
      cases hg : get? other fields with
      | none => simp [hg] at h
      | some v => simp
    · rfl
  · rename_i h
    rw [get?_append, get?_cons]
    have hnone : get? name fields = none := by
      rw [contains] at h
      cases hg : get? name fields with
      | none => rfl
      | some v => simp [hg] at h
    by_cases ho : other = name
    · subst ho; simp [hnone]
    · simp [ho, Ne.symm ho]

/-- A known name keeps its place and an unknown one comes last. -/
theorem names_insert (name : String) (value : α) (fields : Fields α) :
    (insert name value fields).names =
      if name ∈ fields.names then fields.names else fields.names ++ [name] := by
  unfold insert
  by_cases h : contains name fields = true
  · simp [h, contains_iff.1 h]
  · have hn : name ∉ fields.names := fun hm => h (contains_iff.2 hm)
    rw [if_neg h, if_neg hn]
    simp [names]

/-- Inserting keeps every name unique. -/
theorem distinct_insert {fields : Fields α} (h : fields.Distinct) (name : String) (value : α) :
    (insert name value fields).Distinct := by
  unfold Distinct
  rw [names_insert]
  split
  · exact h
  · rename_i hn
    exact List.nodup_append.2 ⟨h, by simp, by
      intro a ha b hb hab
      rw [List.mem_singleton] at hb
      subst hb; subst hab
      exact hn ha⟩

end Fields
end RequestGate
