/-! # Differences between texts

Two texts are compared row by row.  The rows that both keep are a longest sequence that occurs in
both, and between two kept rows the old ones come before the new ones.  The kept and the deleted rows
are the old text, the kept and the inserted rows the new one (`old_edits`, `new_edits`). -/
set_option autoImplicit false

namespace PackageDoc.Text

/-! ## Rows -/

/-- Puts one more character in front of the first row. -/
def consRow (c : Char) : List (List Char) → List (List Char)
  | [] => [[c]]
  | row :: others => (c :: row) :: others

/-- The rows of a text with their ends.  A row ends at a line feed, at a carriage return, which a
line feed may follow, or at the end of the text. -/
def rows : List Char → List (List Char)
  | [] => []
  | '\r' :: '\n' :: rest => ['\r', '\n'] :: rows rest
  | c :: rest => if c = '\n' ∨ c = '\r' then [c] :: rows rest else consRow c (rows rest)

theorem flatten_consRow (c : Char) (others : List (List Char)) :
    (consRow c others).flatten = c :: others.flatten := by
  cases others <;> rfl

theorem flatten_rows (source : List Char) : (rows source).flatten = source := by
  fun_induction rows source with
  | case1 => rfl
  | case2 rest ih => simp [ih]
  | case3 c rest _ ends ih => simp [ih]
  | case4 c rest _ inside ih => simp [flatten_consRow, ih]

/-! ## Edits of a list -/

/-- What happens to a row. -/
inductive Edit (α : Type) where
  | keep (item : α)
  | delete (item : α)
  | insert (item : α)
  deriving DecidableEq, Repr

def Edit.old? {α : Type} : Edit α → Option α
  | .keep item | .delete item => some item
  | .insert _ => none

def Edit.new? {α : Type} : Edit α → Option α
  | .keep item | .insert item => some item
  | .delete _ => none

theorem filterMap_none {α : Type} (items : List α) :
    items.filterMap (fun _ => (none : Option α)) = [] := by
  simp

/-! ## Common items -/

section Compare
variable {α : Type}

def longer (left right : List α) : List α := if left.length < right.length then right else left

theorem sublist_longer {left right whole : List α} (leftInside : left.Sublist whole)
    (rightInside : right.Sublist whole) : (longer left right).Sublist whole := by
  unfold longer
  split
  next => exact rightInside
  next => exact leftInside

/-- Cells of a comparison are common to the given text and to their end of the other one. -/
def Shared (text : List α) : List α → List (List α) → Prop
  | [], cells => ∃ cell, cells = [cell] ∧ cell = []
  | next :: rest, cells =>
    ∃ cell below, cells = cell :: below ∧ cell.Sublist text ∧ cell.Sublist (next :: rest) ∧
      Shared text rest below

theorem Shared.head {text other : List α} {cells : List (List α)}
    (shared : Shared text other cells) :
    (cells.headD []).Sublist text ∧ (cells.headD []).Sublist other := by
  cases other with
  | nil => obtain ⟨cell, rfl, rfl⟩ := shared; simp
  | cons next rest =>
    obtain ⟨cell, below, rfl, inText, inOther, _⟩ := shared
    exact ⟨inText, inOther⟩

theorem shared_start (new : List α) : Shared [] new ([] :: new.map fun _ => []) := by
  induction new with
  | nil => exact ⟨[], rfl, rfl⟩
  | cons next rest ih =>
    exact ⟨[], _, rfl, List.Sublist.slnil, List.nil_sublist _, ih⟩

variable [DecidableEq α]

/-- One step of the comparison.  `below` holds what one text has in common with each end of the
other, from the whole to the empty one; the result holds the same for the text with one more item in
front. -/
def extend (item : α) : List α → List (List α) → List (List α)
  | next :: rest, here :: below =>
    let behind := extend item rest below
    let best := if item = next then item :: below.headD [] else longer here (behind.headD [])
    best :: behind
  | _, _ => [[]]

/-- A longest sequence of items that occurs in both lists. -/
def common (old new : List α) : List α :=
  (old.foldr (fun item below => extend item new below) ([] :: new.map fun _ => [])).headD []

/-- The edits that keep the given items and nothing else. -/
def align : List α → List α → List α → List (Edit α)
  | [], old, new => old.map .delete ++ new.map .insert
  | item :: kept, old, new =>
    (old.takeWhile (· ≠ item)).map .delete ++ (new.takeWhile (· ≠ item)).map .insert ++
      .keep item :: align kept (old.dropWhile (· ≠ item)).tail (new.dropWhile (· ≠ item)).tail

/-- The edits that lead from one list to another and keep as much as possible. -/
def edits (old new : List α) : List (Edit α) := align (common old new) old new

/-! ## Both texts are in the edits -/

theorem Shared.extend (item : α) {text other : List α} {cells : List (List α)}
    (shared : Shared text other cells) :
    Shared (item :: text) other (extend item other cells) := by
  induction other generalizing cells with
  | nil => exact ⟨[], by simp [Text.extend], rfl⟩
  | cons next rest ih =>
    obtain ⟨here, below, rfl, inText, inOther, tail⟩ := shared
    have behind := ih tail
    refine ⟨_, _, rfl, ?_, ?_, behind⟩
    · split
      next => exact tail.head.1.cons_cons item
      next => exact sublist_longer (inText.cons item) behind.head.1
    · split
      next same => subst same; exact tail.head.2.cons_cons item
      next => exact sublist_longer inOther (behind.head.2.cons next)

theorem shared_foldr (old new : List α) :
    Shared old new
      (old.foldr (fun item below => extend item new below) ([] :: new.map fun _ => [])) := by
  induction old with
  | nil => exact shared_start new
  | cons item rest ih => exact ih.extend item

theorem common_sublist (old new : List α) :
    (common old new).Sublist old ∧ (common old new).Sublist new := (shared_foldr old new).head

/-- A list goes on with the rest of a sequence behind the first place of its first item. -/
theorem split_at {item : α} {kept whole : List α} (inside : (item :: kept).Sublist whole) :
    whole.takeWhile (· ≠ item) ++ item :: (whole.dropWhile (· ≠ item)).tail = whole ∧
      kept.Sublist (whole.dropWhile (· ≠ item)).tail := by
  induction whole with
  | nil => cases inside
  | cons next rest ih =>
    by_cases same : next = item
    · subst same
      simpa using inside
    · have further : (item :: kept).Sublist rest := by
        cases inside with
        | cons _ further => exact further
        | cons_cons => exact absurd rfl same
      obtain ⟨whole, behind⟩ := ih further
      simpa [same] using And.intro whole behind

theorem old_align {kept old : List α} (new : List α) (inside : kept.Sublist old) :
    (align kept old new).filterMap Edit.old? = old := by
  induction kept generalizing old new with
  | nil => simp [align, List.filterMap_map, Function.comp_def, Edit.old?]
  | cons item kept ih =>
    obtain ⟨whole, behind⟩ := split_at inside
    simp only [align, List.filterMap_append, List.filterMap_map, Function.comp_def, Edit.old?,
      List.filterMap_cons, ih _ behind, filterMap_none]
    simpa using whole

theorem new_align {kept new : List α} (old : List α) (inside : kept.Sublist new) :
    (align kept old new).filterMap Edit.new? = new := by
  induction kept generalizing old new with
  | nil => simp [align, List.filterMap_map, Function.comp_def, Edit.new?]
  | cons item kept ih =>
    obtain ⟨whole, behind⟩ := split_at inside
    simp only [align, List.filterMap_append, List.filterMap_map, Function.comp_def, Edit.new?,
      List.filterMap_cons, ih _ behind, filterMap_none]
    simpa using whole

theorem old_edits (old new : List α) : (edits old new).filterMap Edit.old? = old :=
  old_align new (common_sublist old new).1

theorem new_edits (old new : List α) : (edits old new).filterMap Edit.new? = new :=
  new_align old (common_sublist old new).2

end Compare
end PackageDoc.Text
