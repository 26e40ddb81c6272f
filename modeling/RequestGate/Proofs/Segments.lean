import Mathlib.Data.List.Basic
import Mathlib.Data.List.Induction
import Mathlib.Data.List.TakeDrop
import RequestGate.Route.Template

/-!
# Segments of a written path

A path is written as its segments, each after a slash, and possibly a slash at its end.  Reading the
segments of such a path gives them back.

Main results:

- Theorem `Pieces.pieces_join`: cutting at separators gives back what was joined with them.
- Theorem `Pieces.pieces_slashed`: the same for parts that each stand after a slash.
- Theorem `Route.segments_slashed`: the segments of a written path are those that were written.
-/

namespace RequestGate

namespace Pieces

/-- What is in one of the parts is in their join. -/
theorem mem_join {α : Type} {separator : α} {parts : List (List α)} {part : List α} {x : α}
    (hpart : part ∈ parts) (hx : x ∈ part) : x ∈ join separator parts := by
  induction parts with
  | nil => exact absurd hpart List.not_mem_nil
  | cons first rest ih =>
    cases rest with
    | nil =>
      rw [← List.mem_singleton.1 hpart]
      exact hx
    | cons next rest =>
      rw [join, List.mem_append, List.mem_cons]
      rcases List.mem_cons.1 hpart with rfl | hpart
      · exact Or.inl hx
      · exact Or.inr (Or.inr (ih hpart))

section

variable {α : Type} [DecidableEq α] {separator : α}

/-- Elements that are no separator are put in front of the first piece. -/
theorem pieces_append {first : List α} (h : separator ∉ first) {list piece : List α}
    {rest : List (List α)} (hpieces : Pieces.pieces separator list = piece :: rest) :
    Pieces.pieces separator (first ++ list) = (first ++ piece) :: rest := by
  induction first with
  | nil => exact hpieces
  | cons x first ih =>
    rw [List.mem_cons, not_or] at h
    rw [List.cons_append, Pieces.pieces_cons, if_neg (Ne.symm h.1), ih h.2]
    rfl

theorem pieces_of_notMem {list : List α} (h : separator ∉ list) : pieces separator list = [list] := by
  have hpieces := pieces_append h (pieces_nil separator)
  rwa [List.append_nil] at hpieces

/-- What stands before a separator is a piece, and the rest has its own pieces. -/
theorem pieces_append_cons {first : List α} (h : separator ∉ first) (rest : List α) :
    pieces separator (first ++ separator :: rest) = first :: pieces separator rest := by
  have hrest : pieces separator (separator :: rest) = [] :: pieces separator rest := by
    rw [pieces_cons, if_pos rfl]
  rw [pieces_append h hrest, List.append_nil]

/-- Cutting at the separators that parts are joined with gives the parts back. -/
theorem pieces_join {parts : List (List α)} (hne : parts ≠ [])
    (hparts : ∀ part ∈ parts, separator ∉ part) : pieces separator (join separator parts) = parts := by
  induction parts with
  | nil => exact absurd rfl hne
  | cons part parts ih =>
    rw [List.forall_mem_cons] at hparts
    cases parts with
    | nil => exact pieces_of_notMem hparts.1
    | cons next parts => rw [join, pieces_append_cons hparts.1, ih (List.cons_ne_nil _ _) hparts.2]

/-- No piece of a list has the separator. -/
theorem separator_notMem_of_mem_pieces {list piece : List α} (h : piece ∈ pieces separator list) :
    separator ∉ piece := by
  induction list generalizing piece with
  | nil =>
    rw [pieces_nil, List.mem_singleton] at h
    rw [h]
    exact List.not_mem_nil
  | cons x list ih =>
    rw [pieces_cons] at h
    split at h
    · rcases List.mem_cons.1 h with rfl | h
      · exact List.not_mem_nil
      · exact ih h
    · rename_i hx
      cases hpieces : pieces separator list with
      | nil => exact absurd hpieces (pieces_ne_nil _ _)
      | cons first rest =>
        rw [hpieces] at h ih
        rcases List.mem_cons.1 h with rfl | h
        · rw [List.mem_cons, not_or]
          exact ⟨Ne.symm hx, ih List.mem_cons_self⟩
        · exact ih (List.mem_cons_of_mem _ h)

/-- An element that is no separator belongs to a piece. -/
theorem exists_mem_pieces {list : List α} {x : α} (hx : x ∈ list) (hne : x ≠ separator) :
    ∃ piece ∈ pieces separator list, x ∈ piece := by
  rw [← join_pieces separator list] at hx
  revert hx
  generalize pieces separator list = parts
  induction parts with
  | nil => exact fun hx => absurd hx List.not_mem_nil
  | cons part parts ih =>
    intro hx
    cases parts with
    | nil => exact ⟨part, List.mem_cons_self, hx⟩
    | cons next parts =>
      rcases List.mem_append.1 hx with hx | hx
      · exact ⟨part, List.mem_cons_self, hx⟩
      · obtain ⟨piece, hpiece, hmem⟩ := ih ((List.mem_cons.1 hx).resolve_left hne)
        exact ⟨piece, List.mem_cons_of_mem _ hpiece, hmem⟩

/-- A list is cut at the first separator. -/
theorem cut_append {before : List α} (h : separator ∉ before) (after : List α) :
    cut separator (before ++ separator :: after) = (before, some after) := by
  have hbefore : ∀ x ∈ before, decide (x ≠ separator) = true := by
    intro x hx
    exact decide_eq_true fun heq => h (heq ▸ hx)
  unfold cut
  rw [List.span_eq_takeWhile_dropWhile, List.takeWhile_append_of_pos hbefore,
    List.dropWhile_append_of_pos hbefore]
  simp

end

/-- Texts, each after a slash. -/
def slashed (parts : List (List Char)) : List Char :=
  parts.flatMap fun part => '/' :: part

@[simp]
theorem slashed_nil : slashed [] = [] :=
  rfl

@[simp]
theorem slashed_cons (part : List Char) (parts : List (List Char)) :
    slashed (part :: parts) = '/' :: (part ++ slashed parts) :=
  rfl

/-- Cutting a written path at its slashes gives the parts back. -/
theorem pieces_slashed {first : List Char} {parts : List (List Char)} (hfirst : '/' ∉ first)
    (hparts : ∀ part ∈ parts, '/' ∉ part) :
    pieces '/' (first ++ slashed parts) = first :: parts := by
  induction parts generalizing first with
  | nil =>
    rw [slashed_nil, List.append_nil]
    exact pieces_of_notMem hfirst
  | cons part parts ih =>
    rw [List.forall_mem_cons] at hparts
    have hslash : pieces '/' (slashed (part :: parts)) = [] :: part :: parts := by
      rw [slashed_cons, pieces_cons, if_pos rfl, ih hparts.1 hparts.2]
    rw [pieces_append hfirst hslash, List.append_nil]

/-- A written path ends in its last part. -/
theorem exists_eq_append_last (first : List Char) (parts : List (List Char)) :
    ∃ before, ∃ last ∈ first :: parts, first ++ slashed parts = before ++ last := by
  induction parts generalizing first with
  | nil => exact ⟨[], first, List.mem_cons_self, List.append_nil first⟩
  | cons part parts ih =>
    obtain ⟨before, last, hlast, hsplit⟩ := ih part
    refine ⟨first ++ '/' :: before, last, List.mem_cons_of_mem _ hlast, ?_⟩
    rw [slashed_cons, hsplit, List.append_assoc, List.cons_append]

end Pieces

namespace Route

open Pieces

/-! ## Slashes at the ends -/

/-- What follows a text that is not empty does not matter at its front. -/
theorem dropFirst_append {c : Char} {text : List Char} (h : text ≠ []) (more : List Char) :
    dropFirst c (text ++ more) = dropFirst c text ++ more := by
  cases text with
  | nil => exact absurd rfl h
  | cons d text =>
    rw [List.cons_append, dropFirst, dropFirst]
    split <;> rfl

/-- Nothing new comes last when the front is taken off. -/
theorem getLast?_dropFirst_ne {c d : Char} {text : List Char} (h : text.getLast? ≠ some d) :
    (dropFirst c text).getLast? ≠ some d := by
  cases text with
  | nil => exact h
  | cons first rest =>
    rw [dropFirst]
    split
    · cases rest with
      | nil => simp
      | cons next rest => rwa [List.getLast?_cons_cons] at h
    · exact h

theorem dropLast_append_singleton (c d : Char) (text : List Char) :
    dropLast c (text ++ [d]) = if d = c then text else text ++ [d] := by
  unfold dropLast
  rw [List.reverse_append, List.reverse_singleton, List.singleton_append, dropFirst]
  split
  · exact List.reverse_reverse text
  · rw [List.reverse_cons, List.reverse_reverse]

/-- A text that does not end in a character keeps its last one. -/
theorem dropLast_eq_self {c : Char} {text : List Char} (h : text.getLast? ≠ some c) :
    dropLast c text = text := by
  induction text using List.reverseRecOn with
  | nil => rfl
  | append_singleton text d _ =>
    rw [List.getLast?_concat] at h
    rw [dropLast_append_singleton, if_neg fun hd => h (congrArg some hd)]

/-- What a path ends with: a slash or nothing. -/
def ending (slash : Bool) : List Char :=
  if slash then ['/'] else []

/-- The segments of a written path are its parts, whether a slash follows them or not. -/
theorem segments_slashed {path : String} {first : List Char} {parts : List (List Char)}
    {slash : Bool} (hpath : path.toList = slashed (first :: parts) ++ ending slash)
    (hparts : ∀ part ∈ first :: parts, part ≠ [] ∧ '/' ∉ part) :
    segments path = (first :: parts).map String.ofList := by
  have hdropFirst : dropFirst '/' path.toList = first ++ slashed parts ++ ending slash := by
    rw [hpath, slashed_cons, List.cons_append, dropFirst, if_pos rfl]
  have hdropLast : dropLast '/' (first ++ slashed parts ++ ending slash) =
      first ++ slashed parts := by
    cases slash with
    | true => exact (dropLast_append_singleton '/' '/' _).trans (if_pos rfl)
    | false =>
      obtain ⟨before, last, hlast, hsplit⟩ := exists_eq_append_last first parts
      obtain ⟨hne, hslash⟩ := hparts last hlast
      show dropLast '/' (first ++ slashed parts ++ []) = _
      rw [List.append_nil, hsplit]
      apply dropLast_eq_self
      rw [List.getLast?_append_of_ne_nil _ hne]
      exact fun hend => hslash (List.mem_of_getLast? hend)
  have hfirst := hparts first List.mem_cons_self
  unfold segments
  rw [hdropFirst, hdropLast, pieces_slashed hfirst.2 fun part hpart =>
    (hparts part (List.mem_cons_of_mem _ hpart)).2]

/-- The root path has a single empty segment. -/
theorem segments_root {path : String} (hpath : path.toList = ['/']) : segments path = [""] := by
  unfold segments
  rw [hpath]
  rfl

/-- A slash behind a path that does not end in one adds no segment. -/
theorem segments_append_slash {path : String} (h : path.toList.getLast? ≠ some '/') :
    segments (path ++ "/") = segments path := by
  have hslash : (path ++ "/").toList = path.toList ++ ['/'] := String.toList_append
  unfold segments
  rw [hslash]
  by_cases hpath : path.toList = []
  · -- the slash alone comes off at the front
    rw [hpath]
    rfl
  · rw [dropFirst_append hpath, dropLast_append_singleton, if_pos rfl,
      dropLast_eq_self (getLast?_dropFirst_ne h)]

end Route
end RequestGate
