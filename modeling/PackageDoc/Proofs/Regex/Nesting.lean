import PackageDoc.Proofs.Steps
import PackageDoc.Regex.Meaning
import PackageDoc.Regex.Parser

/-! # Groups within groups

The groups that are open at a place of a pattern are a list, the innermost first.  What holds of all such
lists of a tree holds of those of its expression: no group gets into another one when flags are settled
and the parts of the expression are put together. -/
set_option autoImplicit false

namespace PackageDoc.Regex

/-! ## The lists of open groups -/

mutual

/-- Every list of groups that are open at once is allowed; `opened` are those around the tree. -/
def Tree.Nests (allowed : List Nat → Prop) (opened : List Nat) : Tree → Prop
  | .loop body _ _ _ => body.Nests allowed opened
  | .group (.capture index) body =>
    allowed (index :: opened) ∧ body.Nests allowed (index :: opened)
  | .group (.plain _) body => body.Nests allowed opened
  | .concat items => Tree.NestsAll allowed opened items
  | .alternation branches => Tree.NestsAll allowed opened branches
  | _ => True

def Tree.NestsAll (allowed : List Nat → Prop) (opened : List Nat) : List Tree → Prop
  | [] => True
  | item :: rest => item.Nests allowed opened ∧ Tree.NestsAll allowed opened rest

end

mutual

def Expr.Nests (allowed : List Nat → Prop) (opened : List Nat) : Expr → Prop
  | .loop body _ _ _ => body.Nests allowed opened
  | .capture index body => allowed (index :: opened) ∧ body.Nests allowed (index :: opened)
  | .concat items => Expr.NestsAll allowed opened items
  | .alternation branches => Expr.NestsAll allowed opened branches
  | _ => True

def Expr.NestsAll (allowed : List Nat → Prop) (opened : List Nat) : List Expr → Prop
  | [] => True
  | item :: rest => item.Nests allowed opened ∧ Expr.NestsAll allowed opened rest

end

variable {allowed : List Nat → Prop} {opened : List Nat}

theorem Tree.nestsAll_iff (items : List Tree) :
    Tree.NestsAll allowed opened items ↔ ∀ item ∈ items, item.Nests allowed opened := by
  induction items with
  | nil => simp [Tree.NestsAll]
  | cons item rest ih => simp only [Tree.NestsAll, ih, List.forall_mem_cons]

theorem Expr.nestsAll_iff (items : List Expr) :
    Expr.NestsAll allowed opened items ↔ ∀ item ∈ items, item.Nests allowed opened := by
  induction items with
  | nil => simp [Expr.NestsAll]
  | cons item rest ih => simp only [Expr.NestsAll, ih, List.forall_mem_cons]

mutual

/-- Two conditions on the lists of open groups make a third. -/
theorem Tree.Nests.combine {left right both : List Nat → Prop}
    (combined : ∀ opened, left opened → right opened → both opened) :
    ∀ (tree : Tree) (opened : List Nat), tree.Nests left opened → tree.Nests right opened →
      tree.Nests both opened
  | .loop body _ _ _, opened, first, second => Tree.Nests.combine combined body opened first second
  | .group (.capture index) body, opened, first, second =>
    ⟨combined _ first.1 second.1,
      Tree.Nests.combine combined body (index :: opened) first.2 second.2⟩
  | .group (.plain _) body, opened, first, second =>
    Tree.Nests.combine combined body opened first second
  | .concat items, opened, first, second =>
    Tree.NestsAll.combine combined items opened first second
  | .alternation branches, opened, first, second =>
    Tree.NestsAll.combine combined branches opened first second
  | .empty, _, _, _ | .flags _, _, _, _ | .literal _, _, _, _ | .dot, _, _, _ | .anchor _, _, _, _
  | .property _ _, _, _, _ | .shorthand _ _, _, _, _ | .bracketed _ _, _, _, _ => trivial

theorem Tree.NestsAll.combine {left right both : List Nat → Prop}
    (combined : ∀ opened, left opened → right opened → both opened) :
    ∀ (items : List Tree) (opened : List Nat), Tree.NestsAll left opened items →
      Tree.NestsAll right opened items → Tree.NestsAll both opened items
  | [], _, _, _ => trivial
  | item :: rest, opened, first, second =>
    ⟨Tree.Nests.combine combined item opened first.1 second.1,
      Tree.NestsAll.combine combined rest opened first.2 second.2⟩

end

/-! ## Putting expressions together -/

namespace Expr

theorem ofSet_nests (set : CharSet) : (ofSet set).Nests allowed opened := by
  unfold ofSet
  split
  · split <;> trivial
  · trivial

theorem ofLoop_nests {body : Expr} (nests : body.Nests allowed opened) (least : Nat)
    (most : Option Nat) (greedy : Bool) : (ofLoop body least most greedy).Nests allowed opened := by
  have chosen : ∀ (least : Nat) (most : Option Nat),
      Expr.Nests allowed opened (if least = 0 ∧ most = some 0 then .empty
        else if least = 1 ∧ most = some 1 then body else .loop body least most greedy) := by
    intro least most
    split
    · trivial
    · split
      · exact nests
      · exact nests
  exact chosen _ _

/-- All of some expressions, as a hypothesis. -/
abbrev Nested (allowed : List Nat → Prop) (opened : List Nat) (items : List Expr) : Prop :=
  ∀ item ∈ items, item.Nests allowed opened

theorem Nested.append {front rest : List Expr} (first : Nested allowed opened front)
    (others : Nested allowed opened rest) : Nested allowed opened (front ++ rest) := by
  intro item member
  cases List.mem_append.1 member with
  | inl member => exact first item member
  | inr member => exact others item member

theorem consItem_nests {item : Expr} {rest : List Expr} (first : item.Nests allowed opened)
    (others : Nested allowed opened rest) : Nested allowed opened (consItem item rest) := by
  unfold consItem
  split
  · exact List.forall_mem_cons.2 ⟨trivial, (List.forall_mem_cons.1 others).2⟩
  · exact List.forall_mem_cons.2 ⟨first, others⟩

theorem foldr_consItem_nests {items rest : List Expr} (first : Nested allowed opened items)
    (others : Nested allowed opened rest) : Nested allowed opened (items.foldr consItem rest) := by
  induction items with
  | nil => exact others
  | cons item items ih =>
    obtain ⟨head, tail⟩ := List.forall_mem_cons.1 first
    exact consItem_nests head (ih tail)

theorem flatItems_nests (items : List Expr) (nested : Nested allowed opened items) :
    Nested allowed opened (flatItems items) := by
  fun_induction flatItems items with
  | case1 => exact nested
  | case2 rest ih => exact ih (List.forall_mem_cons.1 nested).2
  | case3 items rest ih =>
    obtain ⟨first, others⟩ := List.forall_mem_cons.1 nested
    exact foldr_consItem_nests ((nestsAll_iff items).1 first) (ih others)
  | case4 item rest _ _ ih =>
    obtain ⟨first, others⟩ := List.forall_mem_cons.1 nested
    exact consItem_nests first (ih others)

theorem ofItems_nests {items : List Expr} (nested : Nested allowed opened items) :
    (ofItems items).Nests allowed opened := by
  have flat := flatItems_nests items nested
  unfold ofItems
  split
  · trivial
  next item same =>
    rw [same] at flat
    exact flat item List.mem_cons_self
  · exact (nestsAll_iff _).2 flat

theorem flatBranches_nests (branches : List Expr) (nested : Nested allowed opened branches) :
    Nested allowed opened (flatBranches branches) := by
  fun_induction flatBranches branches with
  | case1 => exact nested
  | case2 branches rest ih =>
    obtain ⟨first, others⟩ := List.forall_mem_cons.1 nested
    exact Nested.append ((nestsAll_iff branches).1 first) (ih others)
  | case3 branch rest _ ih =>
    obtain ⟨first, others⟩ := List.forall_mem_cons.1 nested
    exact List.forall_mem_cons.2 ⟨first, ih others⟩

theorem ofDistinct_nests {branches : List Expr} (nested : Nested allowed opened branches) :
    (ofDistinct branches).Nests allowed opened := by
  unfold ofDistinct
  split
  · trivial
  · exact nested _ List.mem_cons_self
  · split
    · exact ofSet_nests _
    · exact (nestsAll_iff _).2 nested

/-- The items of nested sequences are nested. -/
theorem items_nests {branches : List Expr} {parts : List (List Expr)}
    (found : branches.mapM items? = some parts) (nested : Nested allowed opened branches) :
    ∀ items ∈ parts, Nested allowed opened items := by
  induction branches generalizing parts with
  | nil =>
    cases found
    exact fun _ => nofun
  | cons branch rest ih =>
    simp only [List.mapM_cons, Option.bind_eq_bind, Option.bind_eq_some_iff, Option.pure_def] at found
    obtain ⟨items, sequence, others, behind, same⟩ := found
    cases same
    obtain ⟨first, nested⟩ := List.forall_mem_cons.1 nested
    refine List.forall_mem_cons.2 ⟨?_, ih behind nested⟩
    cases branch with
    | concat list =>
      cases sequence
      exact (nestsAll_iff items).1 first
    | empty | literal | oneOf | look | loop | capture | alternation => cases sequence

theorem factor_nests : ∀ (fuel : Nat) (branches : List Expr), Nested allowed opened branches →
    (factor fuel branches).Nests allowed opened := by
  intro fuel
  induction fuel with
  | zero => intro branches nested; exact ofDistinct_nests nested
  | succ fuel ih =>
    intro branches nested
    unfold factor
    split
    next first second others found =>
      have parts := items_nests found nested
      dsimp only
      split
      · exact ofDistinct_nests nested
      · apply ofItems_nests
        apply Nested.append
        · intro item member
          exact parts first List.mem_cons_self item (List.mem_of_mem_take member)
        · intro item member
          rw [List.mem_singleton.1 member]
          apply ih
          apply flatBranches_nests
          intro ending member
          obtain ⟨items, inside, rfl⟩ := List.mem_map.1 member
          exact ofItems_nests fun item member =>
            parts items inside item (List.mem_of_mem_drop member)
    · exact ofDistinct_nests nested

theorem ofBranches_nests {branches : List Expr} (nested : Nested allowed opened branches) :
    (ofBranches branches).Nests allowed opened :=
  factor_nests _ _ (flatBranches_nests branches nested)

end Expr

/-! ## From trees to expressions -/

theorem Flags.char_nests (flags : Flags) (c : Char) : (flags.char c).Nests allowed opened := by
  unfold Flags.char
  split
  · exact Expr.ofSet_nests _
  · trivial

theorem Flags.dot_nests {flags : Flags} {expr : Expr} (dot : flags.dot = .ok expr) :
    expr.Nests allowed opened := by
  unfold Flags.dot at dot
  split at dot
  · cases dot
  · split at dot
    · cases dot
      exact Expr.ofSet_nests _
    · split at dot
      · cases dot
        exact Expr.ofSet_nests _
      · cases dot
        exact Expr.ofSet_nests _

mutual

theorem Tree.meaning_nests : ∀ (tree : Tree) (flags : Flags) (opened : List Nat) {expr : Expr}
    {behind : Flags}, tree.meaning flags = .ok (expr, behind) → tree.Nests allowed opened →
    expr.Nests allowed opened := by
  intro tree flags opened expr behind meaning nests
  cases tree with
  | empty => cases meaning; trivial
  | flags changes => cases meaning; trivial
  | literal written =>
    obtain ⟨c, _, same⟩ := bind_eq_ok meaning
    cases same
    exact flags.char_nests c
  | dot =>
    obtain ⟨any, dot, same⟩ := bind_eq_ok meaning
    cases same
    exact Flags.dot_nests dot
  | anchor sign => cases meaning; trivial
  | property name negated =>
    obtain ⟨set, _, same⟩ := bind_eq_ok meaning
    cases same
    exact Expr.ofSet_nests set
  | shorthand kind negated =>
    obtain ⟨set, _, same⟩ := bind_eq_ok meaning
    cases same
    exact Expr.ofSet_nests set
  | bracketed negated inner =>
    obtain ⟨inside, _, meaning⟩ := bind_eq_ok meaning
    obtain ⟨set, _, same⟩ := bind_eq_ok meaning
    cases same
    exact Expr.ofSet_nests set
  | loop body least most greedy =>
    obtain ⟨⟨round, flags'⟩, inside, same⟩ := bind_eq_ok meaning
    cases same
    exact Expr.ofLoop_nests (body.meaning_nests flags opened inside nests) _ _ _
  | group kind body =>
    cases kind with
    | capture index =>
      obtain ⟨⟨content, _⟩, inside, same⟩ := bind_eq_ok meaning
      cases same
      exact ⟨nests.1, body.meaning_nests flags (index :: opened) inside nests.2⟩
    | plain changes =>
      obtain ⟨⟨content, _⟩, inside, same⟩ := bind_eq_ok meaning
      cases same
      exact body.meaning_nests (flags.apply changes) opened inside nests
  | concat items =>
    obtain ⟨⟨parts, flags'⟩, inside, same⟩ := bind_eq_ok meaning
    cases same
    exact Expr.ofItems_nests (Tree.meaningOfAll_nests items flags opened inside nests)
  | alternation branches =>
    obtain ⟨⟨parts, flags'⟩, inside, same⟩ := bind_eq_ok meaning
    cases same
    exact Expr.ofBranches_nests (Tree.meaningOfAll_nests branches flags opened inside nests)

theorem Tree.meaningOfAll_nests : ∀ (items : List Tree) (flags : Flags) (opened : List Nat)
    {parts : List Expr} {behind : Flags}, Tree.meaningOfAll flags items = .ok (parts, behind) →
    Tree.NestsAll allowed opened items → Expr.Nested allowed opened parts := by
  intro items flags opened parts behind meaning nests
  cases items with
  | nil => cases meaning; exact fun _ => nofun
  | cons item rest =>
    obtain ⟨⟨first, flags'⟩, front, meaning⟩ := bind_eq_ok meaning
    obtain ⟨⟨others, _⟩, remaining, same⟩ := bind_eq_ok meaning
    cases same
    exact List.forall_mem_cons.2 ⟨item.meaning_nests flags opened front nests.1,
      Tree.meaningOfAll_nests rest flags' opened remaining nests.2⟩

end

theorem Expr.ofTree?_nests {tree : Tree} {expr : Expr} (found : Expr.ofTree? tree = .ok expr)
    (nests : tree.Nests allowed opened) : expr.Nests allowed opened := by
  obtain ⟨⟨meaning, _⟩, meant, found⟩ := bind_eq_ok found
  dsimp only at found
  split at found
  · cases found
  · cases found
    exact tree.meaning_nests _ opened meant nests

end PackageDoc.Regex
