/-!
# Splitting at a separator

`pieces` cuts a list at every occurrence of one element, so a list with `n` separators has `n + 1`
pieces, some of them possibly empty.  Joining the pieces again with the separator gives the list
back (`join_pieces`).
-/

namespace RequestGate
namespace Pieces

variable {α : Type} [DecidableEq α]

/-- Puts an element in front of the first piece. -/
def consFirst (x : α) : List (List α) → List (List α)
  | [] => [[x]]
  | piece :: rest => (x :: piece) :: rest

/-- The parts of a list between the occurrences of a separator, in order. -/
def pieces (separator : α) (list : List α) : List (List α) :=
  list.foldr (fun x rest => if x = separator then [] :: rest else consFirst x rest) [[]]

/-- The pieces written one after another with the separator between them. -/
def join (separator : α) : List (List α) → List α
  | [] => []
  | [piece] => piece
  | piece :: next :: rest => piece ++ separator :: join separator (next :: rest)

/-- A list cut at the first separator: what stands before it, and what follows when there is one. -/
def cut (separator : α) (list : List α) : List α × Option (List α) :=
  match list.span (· ≠ separator) with
  | (before, []) => (before, none)
  | (before, _ :: after) => (before, some after)

@[simp]
theorem pieces_nil (separator : α) : pieces separator [] = [[]] :=
  rfl

theorem pieces_cons (separator x : α) (list : List α) :
    pieces separator (x :: list) =
      if x = separator then [] :: pieces separator list
      else consFirst x (pieces separator list) :=
  rfl

theorem pieces_ne_nil (separator : α) (list : List α) : pieces separator list ≠ [] := by
  cases list with
  | nil => simp
  | cons x list =>
    rw [pieces_cons]
    split
    · simp
    · cases pieces separator list <;> simp [consFirst]

theorem join_pieces (separator : α) (list : List α) :
    join separator (pieces separator list) = list := by
  induction list with
  | nil => rfl
  | cons x list ih =>
    rw [pieces_cons]
    have hne := pieces_ne_nil separator list
    revert ih hne
    cases pieces separator list with
    | nil => intro _ hne; exact absurd rfl hne
    | cons piece rest =>
      intro ih _
      split
      · rename_i hx
        simp [join, ih, hx]
      · cases rest with
        | nil => simpa [consFirst, join] using ih
        | cons next rest => simpa [consFirst, join] using ih

end Pieces
end RequestGate
