import RequestGate.Rule.Table

/-!
# Reading and ordering rule tables

A rule table is written by `insert` and read by `recorded?`; the rules of one operation are visited
place by place.

Main results:

- Theorem `LocationRules.mem_nonempty`: the places that are checked are those with rules.
- Theorem `RuleTable.recorded?_insert`: an insertion is read back and changes nothing else.
- Theorem `RuleTable.ordered_insert`: insertion keeps the entries in ascending order of route and
  method.
- Theorem `RuleTable.recorded?_eq_some_iff`: in an ordered table, reading finds every entry.
-/

namespace RequestGate

namespace LocationRules

/-! ## The places of an operation -/

/-- The places that are checked are those with rules. -/
theorem mem_nonempty {rules : LocationRules} {entry : Location × FieldRules} :
    entry ∈ rules.nonempty ↔ entry.2 = rules.fieldsAt entry.1 ∧ entry.2.isEmpty = false := by
  obtain ⟨location, fields⟩ := entry
  unfold nonempty
  rw [List.mem_filter, List.mem_map, Bool.not_eq_true']
  refine and_congr_left fun _ => ?_
  constructor
  · rintro ⟨other, _, hpair⟩
    cases hpair
    rfl
  · intro hfields
    exact ⟨location, Location.mem_all location, by rw [show fields = _ from hfields]⟩

/-- Places are checked in their order. -/
theorem pairwise_nonempty (rules : LocationRules) :
    rules.nonempty.Pairwise fun a b => a.1.rank < b.1.rank := by
  unfold nonempty
  refine List.Pairwise.filter _ ?_
  rw [List.pairwise_map]
  have hall : Location.all.Pairwise fun a b => a.rank < b.rank := by decide
  exact hall

end LocationRules

namespace RuleEntry

/-- The order of entries: by route, and by method within a route. -/
def Precedes (a b : RuleEntry) : Prop :=
  a.route < b.route ∨ a.route = b.route ∧ a.verb.rank < b.verb.rank

theorem isFor_iff {route : String} {verb : Verb} {entry : RuleEntry} :
    entry.isFor route verb = true ↔ entry.route = route ∧ entry.verb = verb := by
  simp [isFor]

theorem isAfter_iff {added entry : RuleEntry} :
    entry.isAfter added.route added.verb = true ↔ added.Precedes entry := by
  simp [isAfter, Precedes]

theorem Precedes.trans {a b c : RuleEntry} (hab : a.Precedes b) (hbc : b.Precedes c) :
    a.Precedes c := by
  rcases hab with hab | ⟨hab, hrank⟩
  · rcases hbc with hbc | ⟨hbc, _⟩
    · exact Or.inl (String.lt_trans hab hbc)
    · exact Or.inl (hbc ▸ hab)
  · rcases hbc with hbc | ⟨hbc, hrank'⟩
    · exact Or.inl (hab ▸ hbc)
    · exact Or.inr ⟨hab.trans hbc, Nat.lt_trans hrank hrank'⟩

/-- Entries for different operations are ordered one way or the other. -/
theorem precedes_or_precedes {a b : RuleEntry} (h : ¬ (a.route = b.route ∧ a.verb = b.verb)) :
    a.Precedes b ∨ b.Precedes a := by
  by_cases hroute : a.route = b.route
  · have hrank : a.verb.rank ≠ b.verb.rank := fun hr => h ⟨hroute, Verb.rank_injective hr⟩
    rcases Nat.lt_or_gt_of_ne hrank with hlt | hlt
    · exact Or.inl (Or.inr ⟨hroute, hlt⟩)
    · exact Or.inr (Or.inr ⟨hroute.symm, hlt⟩)
  · by_cases hlt : a.route < b.route
    · exact Or.inl (Or.inl hlt)
    · by_cases hgt : b.route < a.route
      · exact Or.inr (Or.inl hgt)
      · exact absurd (String.le_antisymm (String.not_lt.1 hgt) (String.not_lt.1 hlt)) hroute

/-- No entry precedes an entry for the same operation. -/
theorem Precedes.not_same {a b : RuleEntry} (h : a.Precedes b) :
    ¬ (a.route = b.route ∧ a.verb = b.verb) := by
  rintro ⟨hroute, hverb⟩
  rcases h with h | ⟨_, h⟩
  · exact String.lt_irrefl _ (hroute ▸ h)
  · exact Nat.lt_irrefl _ (hverb ▸ h)

end RuleEntry

namespace RuleTable

/-! ## Reading -/

@[simp]
theorem recorded?_empty (route : String) (verb : Verb) : empty.recorded? route verb = none :=
  rfl

theorem find?_insertEntry (added : RuleEntry) (entries : List RuleEntry) (route : String)
    (verb : Verb) :
    (insertEntry added entries).find? (RuleEntry.isFor route verb) =
      if route = added.route ∧ verb = added.verb then some added
      else entries.find? (RuleEntry.isFor route verb) := by
  have hadded : added.isFor route verb = true ↔ route = added.route ∧ verb = added.verb := by
    rw [RuleEntry.isFor_iff]
    exact and_congr eq_comm eq_comm
  induction entries with
  | nil =>
    unfold insertEntry
    by_cases h : route = added.route ∧ verb = added.verb
    · rw [if_pos h, List.find?_cons_of_pos (hadded.2 h)]
    · rw [if_neg h, List.find?_cons_of_neg (mt hadded.1 h)]
  | cons entry rest ih =>
    unfold insertEntry
    by_cases h : route = added.route ∧ verb = added.verb
    · rw [if_pos h] at ih ⊢
      split
      · exact List.find?_cons_of_pos (hadded.2 h)
      · rename_i hother
        split
        · exact List.find?_cons_of_pos (hadded.2 h)
        · rw [h.1, h.2] at ih ⊢
          rw [List.find?_cons_of_neg hother, ih]
    · have hno : ¬ added.isFor route verb = true := mt hadded.1 h
      rw [if_neg h] at ih ⊢
      split
      · rename_i hsame
        have hentry : ¬ entry.isFor route verb = true := by
          rw [RuleEntry.isFor_iff] at hsame ⊢
          rintro ⟨hroute, hverb⟩
          exact h ⟨hroute ▸ hsame.1, hverb ▸ hsame.2⟩
        rw [List.find?_cons_of_neg hno, List.find?_cons_of_neg hentry]
      · split
        · exact List.find?_cons_of_neg hno
        · by_cases hentry : entry.isFor route verb = true
          · rw [List.find?_cons_of_pos hentry, List.find?_cons_of_pos hentry]
          · rw [List.find?_cons_of_neg hentry, List.find?_cons_of_neg hentry, ih]

/-- Setting the rules of an operation is read back and leaves every other operation alone. -/
theorem recorded?_insert (table : RuleTable) (route other : String) (verb otherVerb : Verb)
    (rules : Option LocationRules) :
    (table.insert route verb rules).recorded? other otherVerb =
      if other = route ∧ otherVerb = verb then some rules
      else table.recorded? other otherVerb := by
  unfold recorded? insert
  rw [find?_insertEntry]
  split <;> rfl

/-- The rules that are applied are recorded, and there are some. -/
theorem lookup?_eq_some_iff {table : RuleTable} {route : String} {verb : Verb}
    {rules : LocationRules} :
    table.lookup? route verb = some rules ↔
      table.recorded? route verb = some (some rules) ∧ rules.isEmpty = false := by
  unfold lookup?
  rw [Option.filter_eq_some_iff, Option.join_eq_some_iff, Bool.not_eq_true']

/-! ## Order -/

/-- The entries stand in ascending order, each operation once. -/
def Ordered (table : RuleTable) : Prop :=
  table.entries.Pairwise RuleEntry.Precedes

theorem ordered_empty : empty.Ordered :=
  List.Pairwise.nil

theorem mem_of_mem_insertEntry {added entry : RuleEntry} {entries : List RuleEntry}
    (h : entry ∈ insertEntry added entries) : entry = added ∨ entry ∈ entries := by
  induction entries with
  | nil => exact Or.inl (List.mem_singleton.1 h)
  | cons first rest ih =>
    unfold insertEntry at h
    split at h
    · rcases List.mem_cons.1 h with h | h
      · exact Or.inl h
      · exact Or.inr (List.mem_cons_of_mem _ h)
    · split at h
      · exact List.mem_cons.1 h
      · rcases List.mem_cons.1 h with h | h
        · exact Or.inr (h ▸ List.mem_cons_self)
        · rcases ih h with h | h
          · exact Or.inl h
          · exact Or.inr (List.mem_cons_of_mem _ h)

theorem pairwise_insertEntry {added : RuleEntry} {entries : List RuleEntry}
    (h : entries.Pairwise RuleEntry.Precedes) :
    (insertEntry added entries).Pairwise RuleEntry.Precedes := by
  induction entries with
  | nil => exact List.pairwise_singleton _ _
  | cons first rest ih =>
    rw [List.pairwise_cons] at h
    unfold insertEntry
    split
    · rename_i hsame
      rw [RuleEntry.isFor_iff] at hsame
      refine List.pairwise_cons.2 ⟨?_, h.2⟩
      intro entry hentry
      have hafter := h.1 entry hentry
      unfold RuleEntry.Precedes at hafter ⊢
      rw [← hsame.1, ← hsame.2]
      exact hafter
    · rename_i hother
      split
      · rename_i hafter
        rw [RuleEntry.isAfter_iff] at hafter
        refine List.pairwise_cons.2 ⟨?_, List.pairwise_cons.2 h⟩
        intro entry hentry
        rcases List.mem_cons.1 hentry with rfl | hentry
        · exact hafter
        · exact hafter.trans (h.1 entry hentry)
      · rename_i hnot
        rw [RuleEntry.isFor_iff] at hother
        rw [RuleEntry.isAfter_iff] at hnot
        refine List.pairwise_cons.2 ⟨?_, ih h.2⟩
        intro entry hentry
        rcases mem_of_mem_insertEntry hentry with rfl | hentry
        · exact (RuleEntry.precedes_or_precedes hother).resolve_right hnot
        · exact h.1 entry hentry

/-- Insertion keeps a table in order. -/
theorem ordered_insert {table : RuleTable} (h : table.Ordered) (route : String) (verb : Verb)
    (rules : Option LocationRules) : (table.insert route verb rules).Ordered :=
  pairwise_insertEntry h

theorem find?_eq_some_of_mem {entries : List RuleEntry} (h : entries.Pairwise RuleEntry.Precedes)
    {entry : RuleEntry} (hmem : entry ∈ entries) :
    entries.find? (RuleEntry.isFor entry.route entry.verb) = some entry := by
  induction entries with
  | nil => exact absurd hmem List.not_mem_nil
  | cons first rest ih =>
    rw [List.pairwise_cons] at h
    rcases List.mem_cons.1 hmem with rfl | hmem
    · exact List.find?_cons_of_pos (RuleEntry.isFor_iff.2 ⟨rfl, rfl⟩)
    · have hfirst : ¬ first.isFor entry.route entry.verb = true := by
        rw [RuleEntry.isFor_iff]
        exact (h.1 entry hmem).not_same
      rw [List.find?_cons_of_neg hfirst]
      exact ih h.2 hmem

/-- In an ordered table every entry is the one that its operation is read to. -/
theorem recorded?_eq_some_iff {table : RuleTable} (h : table.Ordered) {route : String} {verb : Verb}
    {rules : Option LocationRules} :
    table.recorded? route verb = some rules ↔ ⟨route, verb, rules⟩ ∈ table.entries := by
  unfold recorded?
  constructor
  · intro hfind
    obtain ⟨entry, hentry, hrules⟩ := Option.map_eq_some_iff.1 hfind
    obtain ⟨hroute, hverb⟩ := RuleEntry.isFor_iff.1 (List.find?_some hentry)
    rw [← hroute, ← hverb, ← hrules]
    exact List.mem_of_find?_eq_some hentry
  · intro hmem
    rw [find?_eq_some_of_mem h hmem]
    rfl

end RuleTable
end RequestGate
