import PackageDoc.Proofs.Regex.Nesting

/-! # The numbers of groups

Groups are numbered as they open, so a group within another one has a greater number.  The reader keeps
the groups that are still open on its stack, and what it has read stands within those. -/
set_option autoImplicit false

namespace PackageDoc.Regex

/-- Open groups, the innermost first: the inner ones have the greater numbers. -/
def Ascending (opened : List Nat) : Prop := opened.Pairwise fun inner outer => outer < inner

/-- The groups that are open behind some frames.  Group 0, the whole match, always is. -/
def openGroups : List GroupFrame → List Nat
  | [] => [0]
  | frame :: stack =>
    match frame.kind with
    | .capture index => index :: openGroups stack
    | .plain _ => openGroups stack

def Tree.Ordered (stack : List GroupFrame) (tree : Tree) : Prop :=
  tree.Nests Ascending (openGroups stack)

/-- What stands before an open group is nested in those around it. -/
def FramesOrdered : List GroupFrame → Prop
  | [] => True
  | frame :: stack =>
    (∀ tree ∈ frame.items, tree.Ordered stack) ∧ (∀ tree ∈ frame.branches, tree.Ordered stack) ∧
      FramesOrdered stack

namespace Reader

structure Ordered (reader : Reader) : Prop where
  bounded : ∀ index ∈ openGroups reader.stack, index ≤ reader.captures
  ascending : Ascending (openGroups reader.stack)
  items : ∀ tree ∈ reader.items, tree.Ordered reader.stack
  branches : ∀ tree ∈ reader.branches, tree.Ordered reader.stack
  around : FramesOrdered reader.stack

variable {reader next : Reader}

theorem branchOf_ordered {stack : List GroupFrame} {items : List Tree}
    (ordered : ∀ tree ∈ items, tree.Ordered stack) : (branchOf items).Ordered stack := by
  unfold branchOf
  split
  · trivial
  · exact ordered _ List.mem_cons_self
  · exact (Tree.nestsAll_iff _).2 fun tree member => ordered tree (List.mem_reverse.1 member)

theorem body_ordered (ordered : reader.Ordered) : reader.body.Ordered reader.stack := by
  have last := branchOf_ordered ordered.items
  unfold body
  split
  · exact last
  · refine (Tree.nestsAll_iff _).2 fun tree member => ?_
    cases List.mem_cons.1 (List.mem_reverse.1 member) with
    | inl same => exact same ▸ last
    | inr member => exact ordered.branches tree member

/-- The rest of the pattern, the mode and the names of groups do not matter. -/
theorem Ordered.of_same (ordered : reader.Ordered) (captures : next.captures = reader.captures)
    (stack : next.stack = reader.stack) (items : next.items = reader.items)
    (branches : next.branches = reader.branches) : next.Ordered := by
  cases reader
  cases next
  cases captures
  cases stack
  cases items
  cases branches
  exact ⟨ordered.bounded, ordered.ascending, ordered.items, ordered.branches, ordered.around⟩

theorem push_ordered (ordered : reader.Ordered) {item : Tree} (nests : item.Ordered reader.stack)
    (rest : List Char) : (reader.push item rest).Ordered :=
  ⟨ordered.bounded, ordered.ascending, List.forall_mem_cons.2 ⟨nests, ordered.items⟩,
    ordered.branches, ordered.around⟩

theorem openCapture_ordered (ordered : reader.Ordered) (rest : List Char) :
    (reader.openCapture rest).Ordered := by
  refine ⟨?_, ?_, fun _ => nofun, fun _ => nofun, ordered.items, ordered.branches, ordered.around⟩
  · intro index member
    cases List.mem_cons.1 member with
    | inl same => exact Nat.le_of_eq same
    | inr member => exact Nat.le_succ_of_le (ordered.bounded index member)
  · apply List.pairwise_cons.2
    exact ⟨fun index member => Nat.lt_succ_of_le (ordered.bounded index member), ordered.ascending⟩

theorem openGroup_plain_ordered (ordered : reader.Ordered) (changes : List (Flag × Bool))
    (verbose : Bool) (rest : List Char) :
    (reader.openGroup (.plain changes) verbose rest).Ordered :=
  ⟨ordered.bounded, ordered.ascending, fun _ => nofun, fun _ => nofun, ordered.items,
    ordered.branches, ordered.around⟩

theorem readGroup_ordered (ordered : reader.Ordered) {text : List Char}
    (read : reader.readGroup text = .ok next) : next.Ordered := by
  have named : ∀ rest, reader.openNamed rest = .ok next → next.Ordered := by
    intro rest read
    obtain ⟨⟨name, behind⟩, _, read⟩ := bind_eq_ok read
    dsimp only at read
    split at read
    · cases read
    · cases read
      exact (openCapture_ordered ordered behind).of_same rfl rfl rfl rfl
  unfold readGroup at read
  split at read
  · cases read
  · cases read
  · cases read
  · cases read
  · exact named _ read
  · exact named _ read
  · obtain ⟨⟨changes, sign, behind⟩, _, read⟩ := bind_eq_ok read
    dsimp only at read
    split at read
    · split at read
      · cases read
      · cases read
        have nests : Tree.Ordered reader.stack (.flags changes) := trivial
        have pushed := push_ordered ordered nests behind
        exact pushed.of_same rfl rfl rfl rfl
    · cases read
      exact openGroup_plain_ordered ordered _ _ _
  · cases read
    exact openCapture_ordered ordered _

theorem closeGroup_ordered (ordered : reader.Ordered) {rest : List Char}
    (closed : reader.closeGroup rest = .ok next) : next.Ordered := by
  have content := body_ordered ordered
  obtain ⟨bounded, ascending, _, _, around⟩ := ordered
  unfold closeGroup at closed
  split at closed
  · cases closed
  next frame stack same =>
    cases closed
    rw [same] at bounded ascending around content
    obtain ⟨before, branches, around⟩ := around
    obtain ⟨kind, items, earlier, verbose⟩ := frame
    cases kind with
    | capture index =>
      refine ⟨fun other member => bounded other (List.mem_cons_of_mem index member),
        (List.pairwise_cons.1 ascending).2, ?_, branches, around⟩
      exact List.forall_mem_cons.2 ⟨⟨ascending, content⟩, before⟩
    | plain changes =>
      exact ⟨bounded, ascending, List.forall_mem_cons.2 ⟨content, before⟩, branches, around⟩

theorem repeatLast_ordered (ordered : reader.Ordered) {least : Nat} {most : Option Nat}
    {rest : List Char} (read : reader.repeatLast least most rest = .ok next) : next.Ordered := by
  unfold repeatLast at read
  split at read
  · cases read
  · cases read
  · cases read
  next item items _ _ same =>
    have before := ordered.items
    rw [same] at before
    obtain ⟨last, others⟩ := List.forall_mem_cons.1 before
    have looped : ∀ greedy, ∀ tree ∈ Tree.loop item least most greedy :: items,
        tree.Ordered reader.stack := fun _ => List.forall_mem_cons.2 ⟨last, others⟩
    split at read
    · cases read
      exact ⟨ordered.bounded, ordered.ascending, looped false, ordered.branches, ordered.around⟩
    · cases read
      exact ⟨ordered.bounded, ordered.ascending, looped true, ordered.branches, ordered.around⟩

theorem readCounts_ordered (ordered : reader.Ordered) {rest : List Char}
    (read : reader.readCounts rest = .ok next) : next.Ordered := by
  obtain ⟨⟨least, behind⟩, _, read⟩ := bind_eq_ok read
  have finished : ∀ {least : Nat} {most : Option Nat} {rest : List Char},
      (if most.any (· < least) then .error .repetition
        else reader.repeatLast least most rest : Attempt Reader) = .ok next → next.Ordered := by
    intro least most rest read
    split at read
    · cases read
    · exact repeatLast_ordered ordered read
  dsimp only at read
  split at read
  · split at read
    · exact finished read
    · obtain ⟨⟨most, behind⟩, _, read⟩ := bind_eq_ok read
      dsimp only at read
      split at read
      · split at read
        · exact finished read
        · cases read
      · cases read
  · split at read
    · exact finished read
    · cases read
  · cases read

end Reader

/-! ## Parts without groups -/

section Leaves
variable {allowed : List Nat → Prop} {opened : List Nat}

theorem readEscape_nests {verbose : Bool} {text rest : List Char} {tree : Tree}
    (read : readEscape verbose text = .ok (tree, rest)) : tree.Nests allowed opened := by
  unfold readEscape at read
  split at read
  · cases read
  next c text =>
    split at read
    · cases read
    · split at read
      · obtain ⟨⟨literal, behind⟩, _, same⟩ := bind_eq_ok read
        cases same
        trivial
      · split at read
        · obtain ⟨⟨⟨name, excluded⟩, behind⟩, _, same⟩ := bind_eq_ok read
          cases same
          trivial
        · split at read
          · cases read; trivial
          · split at read
            · cases read; trivial
            · split at read
              · cases read; trivial
              · split at read
                · cases read; trivial
                · cases read; trivial
                · obtain ⟨⟨edge, behind⟩, _, same⟩ := bind_eq_ok read
                  cases same
                  trivial
                · cases read; trivial
                · cases read; trivial
                · cases read; trivial
                · cases read

theorem readClass_nests {verbose : Bool} {tree : Tree} {rest : List Char} :
    ∀ (fuel : Nat) (stack : List ClassFrame) (items : List ClassTree) (text : List Char),
      readClass verbose fuel stack items text = .ok (tree, rest) → tree.Nests allowed opened := by
  intro fuel
  induction fuel with
  | zero => intro stack items text read; cases read
  | succ fuel ih =>
    intro stack items text read
    unfold readClass at read
    split at read
    · cases read
    · split at read
      · exact ih _ _ _ read
      · obtain ⟨⟨⟨negated, begun⟩, behind⟩, _, read⟩ := bind_eq_ok read
        exact ih _ _ _ read
    · dsimp only at read
      split at read
      · cases read
        trivial
      · exact ih _ _ _ read
      · cases read
    · exact ih _ _ _ read
    · exact ih _ _ _ read
    · exact ih _ _ _ read
    · obtain ⟨⟨item, behind⟩, _, read⟩ := bind_eq_ok read
      exact ih _ _ _ read

end Leaves

/-! ## The whole pattern -/

namespace Reader
variable {reader next : Reader}

theorem step_ordered (ordered : reader.Ordered) {text : List Char}
    (read : reader.step text = .ok next) : next.Ordered := by
  unfold step at read
  split at read
  · cases read
    exact ordered.of_same rfl rfl rfl rfl
  · exact readGroup_ordered ordered read
  · exact closeGroup_ordered ordered read
  · cases read
    refine ⟨ordered.bounded, ordered.ascending, fun _ => nofun, ?_, ordered.around⟩
    exact List.forall_mem_cons.2 ⟨branchOf_ordered ordered.items, ordered.branches⟩
  · obtain ⟨⟨⟨negated, begun⟩, behind⟩, _, read⟩ := bind_eq_ok read
    obtain ⟨⟨tree, rest⟩, found, same⟩ := bind_eq_ok read
    cases same
    exact push_ordered ordered (readClass_nests _ _ _ _ found) rest
  · exact repeatLast_ordered ordered read
  · exact repeatLast_ordered ordered read
  · exact repeatLast_ordered ordered read
  · split at read
    · cases read
    · cases read
    · cases read
    · exact readCounts_ordered ordered read
  · obtain ⟨⟨item, rest⟩, found, same⟩ := bind_eq_ok read
    cases same
    exact push_ordered ordered (readEscape_nests found) rest
  -- The dot, the anchors and literal characters hold no group.
  iterate 4
    · cases read
      apply push_ordered ordered
      trivial

theorem run_ordered : ∀ (fuel : Nat) {reader next : Reader}, reader.Ordered →
    run fuel reader = .ok next → next.Ordered := by
  intro fuel
  induction fuel with
  | zero => intro reader next ordered ran; cases ran; exact ordered
  | succ fuel ih =>
    intro reader next ordered ran
    unfold run at ran
    split at ran
    · cases ran
      exact ordered
    · obtain ⟨after, stepped, ran⟩ := bind_eq_ok ran
      exact ih (step_ordered ordered stepped) ran

theorem start_ordered (pattern : List Char) : Reader.Ordered { rest := pattern } := by
  refine ⟨?_, List.pairwise_singleton _ _, fun _ => nofun, fun _ => nofun, trivial⟩
  intro index member
  exact Nat.le_of_eq (List.mem_singleton.1 member)

end Reader

/-- In a pattern that was read a group has a smaller number than those within it. -/
theorem Tree.parse_ascending {pattern : List Char} {tree : Tree}
    (parsed : Tree.parse pattern = .ok tree) : tree.Nests Ascending [0] := by
  obtain ⟨reader, ran, parsed⟩ := bind_eq_ok parsed
  have ordered := Reader.run_ordered _ (Reader.start_ordered pattern) ran
  split at parsed
  · cases parsed
  next closed =>
    split at parsed
    · cases parsed
    · cases parsed
      have content := Reader.body_ordered ordered
      have none : reader.stack = [] := by simpa using closed
      rwa [none] at content

end PackageDoc.Regex
