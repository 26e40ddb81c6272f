import RequestGate.Route.Template

/-!
# The route index

An index holds route templates in descending order of their text, each once.  A path resolves to the
first of them that matches it, so the greatest matching template wins.  A colon sorts above digits
and below letters: where two templates differ first, a literal that starts with a letter is tried
before a parameter.
-/

namespace RequestGate
namespace Route

/-- Templates in descending order of text without repetition. -/
structure Index where
  templates : List String
  descending : templates.Pairwise fun a b => b < a

/-- The template that a path resolves to, with its captured parameters. -/
structure Resolution where
  template : String
  captures : Captures

namespace Index

/-- A text put in its place in a descending list, unless it is there already. -/
def insertText (text : String) : List String → List String
  | [] => [text]
  | other :: rest =>
    if text = other then other :: rest
    else if other < text then text :: other :: rest
    else other :: insertText text rest

theorem mem_insertText {text x : String} {list : List String} :
    x ∈ insertText text list ↔ x = text ∨ x ∈ list := by
  induction list with
  | nil => simp [insertText]
  | cons other rest ih =>
    unfold insertText
    split
    · rename_i h
      subst h
      simp
    · split
      · simp
      · simp only [List.mem_cons, ih]
        exact or_left_comm

theorem pairwise_insertText {text : String} {list : List String}
    (h : list.Pairwise fun a b => b < a) :
    (insertText text list).Pairwise fun a b => b < a := by
  induction list with
  | nil => simp [insertText]
  | cons other rest ih =>
    rw [List.pairwise_cons] at h
    unfold insertText
    split
    · exact List.pairwise_cons.2 h
    · rename_i hne
      split
      · rename_i hlt
        refine List.pairwise_cons.2 ⟨?_, List.pairwise_cons.2 h⟩
        intro x hx
        rcases List.mem_cons.1 hx with rfl | hx
        · exact hlt
        · exact String.lt_trans (h.1 x hx) hlt
      · rename_i hnlt
        refine List.pairwise_cons.2 ⟨?_, ih h.2⟩
        intro x hx
        rcases mem_insertText.1 hx with rfl | hx
        · exact Decidable.byContradiction fun hn =>
            hne (String.le_antisymm (String.not_lt.1 hnlt) (String.not_lt.1 hn))
        · exact h.1 x hx

/-- The index without templates. -/
def empty : Index :=
  ⟨[], List.Pairwise.nil⟩

/-- The index with one more template. -/
def insert (template : String) (index : Index) : Index :=
  ⟨insertText template index.templates, pairwise_insertText index.descending⟩

/-- The index of the templates of a list. -/
def ofList (templates : List String) : Index :=
  templates.foldr insert empty

/-- The first template that matches a path, with its parameters. -/
def resolve? (index : Index) (path : String) : Option Resolution :=
  let lowered := segments (Case.lower path)
  let sent := segments path
  index.templates.findSome? fun template =>
    (capture? template lowered sent).map fun captures => ⟨template, captures⟩

end Index
end Route
end RequestGate
