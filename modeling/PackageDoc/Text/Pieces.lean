/-! # Pieces

Cutting a list at every occurrence of a separator, and joining the pieces again. -/
set_option autoImplicit false

namespace PackageDoc.Text

variable {α : Type}

/-- The pieces between the separators; there is one more of them than there are separators. -/
def pieces [DecidableEq α] (separator : α) : List α → List (List α)
  | [] => [[]]
  | item :: rest =>
    if item = separator then [] :: pieces separator rest
    else
      match pieces separator rest with
      | [] => [[item]]
      | piece :: others => (item :: piece) :: others

theorem pieces_ne_nil [DecidableEq α] (separator : α) (items : List α) : pieces separator items ≠ [] := by
  cases items with
  | nil => simp [pieces]
  | cons item rest =>
    simp only [pieces]
    split
    · simp
    · split <;> simp

/-- Joins pieces with one separator between neighbours. -/
def join (separator : α) : List (List α) → List α
  | [] => []
  | [piece] => piece
  | piece :: others => piece ++ separator :: join separator others

theorem join_cons_cons (separator : α) (item : α) (piece : List α) (others : List (List α)) :
    join separator ((item :: piece) :: others) = item :: join separator (piece :: others) := by
  cases others <;> simp [join]

theorem join_pieces [DecidableEq α] (separator : α) (items : List α) :
    join separator (pieces separator items) = items := by
  induction items with
  | nil => simp [pieces, join]
  | cons item rest ih =>
    simp only [pieces]
    split
    next same =>
      subst same
      cases found : pieces item rest with
      | nil => exact absurd found (pieces_ne_nil item rest)
      | cons piece others => rw [found] at ih; simp [join, ih]
    next =>
      cases found : pieces separator rest with
      | nil => exact absurd found (pieces_ne_nil separator rest)
      | cons piece others => rw [found] at ih; simp [join_cons_cons, ih]

end PackageDoc.Text
