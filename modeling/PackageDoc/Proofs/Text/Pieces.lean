import PackageDoc.Text.Pieces

/-! # Pieces of joined texts

Cutting a text with a separator in it gives the pieces before the separator and those behind it; a
text without separators is one piece.  What is in a piece is in the text.  A text in which every item
other than the separator is expanded falls into the expanded pieces. -/
set_option autoImplicit false

namespace PackageDoc.Text

variable {α : Type} [DecidableEq α]

theorem pieces_of_notMem (separator : α) {items : List α} (free : separator ∉ items) :
    pieces separator items = [items] := by
  induction items with
  | nil => rfl
  | cons item rest ih =>
    have different : item ≠ separator := fun same => free (same ▸ List.mem_cons_self)
    have later : separator ∉ rest := fun found => free (List.mem_cons_of_mem _ found)
    simp [pieces, different, ih later]

theorem pieces_append (separator : α) (front behind : List α) :
    pieces separator (front ++ separator :: behind) =
      pieces separator front ++ pieces separator behind := by
  induction front with
  | nil => simp [pieces]
  | cons item rest ih =>
    by_cases same : item = separator
    · simp [pieces, same, ih]
    · cases found : pieces separator rest with
      | nil => exact absurd found (pieces_ne_nil separator rest)
      | cons piece others => simp [pieces, same, ih, found]

theorem pieces_append_of_notMem (separator : α) {front : List α} (free : separator ∉ front)
    {rest piece : List α} {others : List (List α)} (cut : pieces separator rest = piece :: others) :
    pieces separator (front ++ rest) = (front ++ piece) :: others := by
  induction front with
  | nil => exact cut
  | cons item front ih =>
    have different : item ≠ separator := fun same => free (same ▸ List.mem_cons_self)
    have later : separator ∉ front := fun found => free (List.mem_cons_of_mem _ found)
    simp [pieces, different, ih later]

/-- Cutting and expanding each item commute if the separator is the expansion of itself only. -/
theorem pieces_flatMap (separator : α) {expand : α → List α} (kept : expand separator = [separator])
    (apart : ∀ item, item ≠ separator → separator ∉ expand item) (items : List α) :
    pieces separator (items.flatMap expand) =
      (pieces separator items).map fun piece => piece.flatMap expand := by
  induction items with
  | nil => rfl
  | cons item rest ih =>
    rw [List.flatMap_cons]
    by_cases same : item = separator
    · subst same
      rw [kept]
      simp [pieces, ih]
    · cases found : pieces separator rest with
      | nil => exact absurd found (pieces_ne_nil separator rest)
      | cons piece others =>
        rw [found, List.map_cons] at ih
        rw [pieces_append_of_notMem separator (apart item same) ih]
        simp [pieces, same, found]

theorem notMem_of_mem_pieces (separator : α) {items piece : List α}
    (member : piece ∈ pieces separator items) : separator ∉ piece := by
  induction items generalizing piece with
  | nil => simp_all [pieces]
  | cons item rest ih =>
    simp only [pieces] at member
    split at member
    next =>
      rcases List.mem_cons.1 member with rfl | later
      · simp
      · exact ih later
    next different =>
      cases found : pieces separator rest with
      | nil => exact absurd found (pieces_ne_nil separator rest)
      | cons first others =>
        rw [found] at member
        rcases List.mem_cons.1 member with rfl | later
        · have apart : separator ∉ first := ih (found ▸ List.mem_cons_self)
          simp [apart, Ne.symm different]
        · exact ih (found ▸ List.mem_cons_of_mem _ later)

omit [DecidableEq α] in
theorem mem_join (separator : α) {item : α} {piece : List α} (inside : item ∈ piece) :
    ∀ {parts : List (List α)}, piece ∈ parts → item ∈ join separator parts := by
  intro parts
  induction parts with
  | nil => intro member; exact absurd member List.not_mem_nil
  | cons first rest ih =>
    intro member
    cases rest with
    | nil => rwa [List.mem_singleton.1 member] at inside
    | cons next others =>
      rw [join.eq_3 _ _ _ (List.cons_ne_nil next others)]
      rcases List.mem_cons.1 member with rfl | later
      · exact List.mem_append_left _ inside
      · exact List.mem_append_right _ (List.mem_cons_of_mem _ (ih later))

theorem mem_of_mem_pieces (separator : α) {items piece : List α}
    (member : piece ∈ pieces separator items) {item : α} (inside : item ∈ piece) : item ∈ items := by
  rw [← join_pieces separator items]
  exact mem_join separator inside member

end PackageDoc.Text
