import PackageDoc.Proofs.Regex.Numbering
import PackageDoc.Proofs.Regex.OpenGroups
import PackageDoc.Proofs.Regex.Within

/-! # Spans of groups

A thread closes the groups that it opened in reverse order and never goes back in the text.  So the spans
of two groups of a match lie apart, unless one group is written within the other: then one span may lie
within the other. -/
set_option autoImplicit false

namespace PackageDoc.Regex

namespace Span

def Apart (left right : Span) : Prop := left.stop ≤ right.start ∨ right.stop ≤ left.start

def Inside (inner outer : Span) : Prop := outer.start ≤ inner.start ∧ inner.stop ≤ outer.stop

instance (left right : Span) : Decidable (left.Apart right) := by
  unfold Apart
  infer_instance

end Span

namespace Slots

/-- The span of a group, where one that is open will end at `later`. -/
structure Spans (slots : Slots) (opened : List Nat) (index later : Nat) (span : Span) : Prop where
  starts : slots[2 * index]? = some (some span.start)
  stops : if index ∈ opened then span.stop = later
    else slots[2 * index + 1]? = some (some span.stop)

variable {slots : Slots} {opened : List Nat} {group index place later : Nat} {span : Span}

theorem spans_iff_group? : slots.Spans [] index later span ↔ slots.group? index = some span := by
  rw [slots.group?_eq_some_iff]
  constructor
  · intro spans
    exact ⟨spans.starts, spans.stops⟩
  · intro noted
    exact ⟨noted.1, noted.2⟩

theorem Spans.start_le (spans : slots.Spans opened index later span) (within : slots.Within place) :
    span.start ≤ place :=
  within _ (List.mem_of_getElem? spans.starts)

theorem Spans.stop_le (spans : slots.Spans opened index later span) (closed : index ∉ opened)
    (within : slots.Within place) : span.stop ≤ place := by
  have stops := spans.stops
  rw [if_neg closed] at stops
  exact within _ (List.mem_of_getElem? stops)

/-- A closed group has ended. -/
theorem Spans.of_not_mem (spans : slots.Spans opened index later span) (closed : index ∉ opened)
    (other : Nat) : slots.Spans opened index other span := by
  obtain ⟨starts, stops⟩ := spans
  rw [if_neg closed] at stops
  exact ⟨starts, by rwa [if_neg closed]⟩

theorem eq_of_getElem?_set {slot noted : Nat}
    (found : (slots.set slot (some place))[slot]? = some (some noted)) : noted = place := by
  rw [List.getElem?_set_self'] at found
  cases before : slots[slot]? with
  | none => simp [before] at found
  | some old => simpa [before] using found.symm

/-- A group that is opened begins at the place; the others keep their spans. -/
theorem Spans.of_open
    (spans : Spans (slots.set (2 * group) (some place)) (group :: opened) index later span) :
    (index = group ∧ span = ⟨place, later⟩) ∨ slots.Spans opened index later span := by
  obtain ⟨starts, stops⟩ := spans
  by_cases same : index = group
  · subst same
    have start := eq_of_getElem?_set starts
    rw [if_pos List.mem_cons_self] at stops
    refine .inl ⟨rfl, ?_⟩
    rw [← start, ← stops]
  · refine .inr ⟨?_, ?_⟩
    · rwa [List.getElem?_set_ne (by omega)] at starts
    · rw [List.getElem?_set_ne (by omega)] at stops
      simpa [same] using stops

/-- A group that is closed ends at the place. -/
theorem Spans.of_close (closed : group ∉ opened)
    (spans : Spans (slots.set (2 * group + 1) (some place)) opened index later span) :
    slots.Spans (group :: opened) index (if index = group then place else later) span := by
  obtain ⟨starts, stops⟩ := spans
  rw [List.getElem?_set_ne (by omega)] at starts
  refine ⟨starts, ?_⟩
  by_cases same : index = group
  · subst same
    rw [if_neg closed] at stops
    rw [if_pos List.mem_cons_self, if_pos rfl]
    exact eq_of_getElem?_set stops
  · rw [List.getElem?_set_ne (by omega)] at stops
    simpa [same] using stops

end Slots

/-! ## Two groups of a thread -/

/-- The lists of open groups where two groups are open together only if they are nested. -/
def Keeping (nested : Prop) (outer inner : Nat) (opened : List Nat) : Prop :=
  Ascending opened ∧ (outer ∈ opened → inner ∈ opened → nested)

/-- What the slots of a thread at a place say of two groups: wherever those that are open end later on,
the inner one first, the two spans lie apart or one in the other. -/
structure Slots.Parted (nested : Prop) (outer inner : Nat) (opened : List Nat) (place : Nat)
    (slots : Slots) : Prop where
  within : slots.Within place
  forward {index later : Nat} {span : Span} : place ≤ later → slots.Spans opened index later span →
    span.start ≤ span.stop
  parted {sooner later : Nat} {span span' : Span} : place ≤ sooner → sooner ≤ later →
    slots.Spans opened outer later span → slots.Spans opened inner sooner span' →
    span.Apart span' ∨ (nested ∧ span'.Inside span)

namespace Slots.Parted
variable {nested : Prop} {outer inner group place wider : Nat} {opened rest : List Nat} {slots : Slots}

theorem mono (parted : slots.Parted nested outer inner opened place) (moved : place ≤ wider) :
    slots.Parted nested outer inner opened wider :=
  ⟨parted.within.mono moved, fun bounded => parted.forward (Nat.le_trans moved bounded),
    fun bounded => parted.parted (Nat.le_trans moved bounded)⟩

theorem opening (parted : slots.Parted nested outer inner opened place) (ordered : outer < inner)
    (keeping : Keeping nested outer inner (group :: opened)) :
    Slots.Parted nested outer inner (group :: opened) place (slots.set (2 * group) (some place)) := by
  obtain ⟨ascending, together⟩ := keeping
  have below := (List.pairwise_cons.1 ascending).1
  refine ⟨parted.within.set (Nat.le_refl _) _, ?_, ?_⟩
  · intro index later span bounded spans
    rcases spans.of_open with ⟨_, rfl⟩ | before
    · exact bounded
    · exact parted.forward bounded before
  · intro sooner later span span' bounded ended first second
    rcases first.of_open with ⟨rfl, rfl⟩ | before
    · -- The groups around the one that is opened have smaller numbers, so the inner group is closed.
      rcases second.of_open with ⟨same, _⟩ | before'
      · exact absurd same (Nat.ne_of_gt ordered)
      · have closed : inner ∉ opened := fun member => Nat.lt_asymm ordered (below inner member)
        exact .inl (.inr (before'.stop_le closed parted.within))
    · rcases second.of_open with ⟨rfl, rfl⟩ | before'
      · by_cases around : outer ∈ opened
        · have ends := before.stops
          rw [if_pos around] at ends
          have nests := together (List.mem_cons_of_mem _ around) List.mem_cons_self
          exact .inr ⟨nests, before.start_le parted.within, ends ▸ ended⟩
        · exact .inl (.inl (before.stop_le around parted.within))
      · exact parted.parted bounded ended before before'

theorem closing (parted : slots.Parted nested outer inner (group :: rest) place)
    (ordered : outer < inner) (ascending : Ascending (group :: rest)) :
    Slots.Parted nested outer inner rest place (slots.set (2 * group + 1) (some place)) := by
  have below := (List.pairwise_cons.1 ascending).1
  have closed : group ∉ rest := fun member => Nat.lt_irrefl _ (below group member)
  have bounds : ∀ {index later : Nat}, place ≤ later → place ≤ if index = group then place else later := by
    intro index later bounded
    split
    · exact Nat.le_refl _
    · exact bounded
  refine ⟨parted.within.set (Nat.le_refl _) _, ?_, ?_⟩
  · intro index later span bounded spans
    exact parted.forward (bounds bounded) (spans.of_close closed)
  · intro sooner later span span' bounded ended first second
    have before := first.of_close closed
    have before' := second.of_close closed
    by_cases same : outer = group
    · subst same
      have ended' : inner ∉ outer :: rest := by
        intro member
        cases List.mem_cons.1 member with
        | inl same => exact Nat.ne_of_gt ordered same
        | inr member => exact Nat.lt_asymm ordered (below inner member)
      rw [if_pos rfl] at before
      exact parted.parted (Nat.le_refl _) (Nat.le_refl _) before (before'.of_not_mem ended' place)
    · rw [if_neg same] at before
      refine parted.parted (bounds bounded) ?_ before before'
      split
      · exact Nat.le_trans bounded ended
      · exact ended

end Slots.Parted

/-! ## Two groups of a match -/

namespace Program
variable {program : Program} {nested : Prop} {outer inner : Nat} {openAt : List (List Nat)}

/-- The groups that are open at an instruction, and what the slots say of two groups. -/
def PartedAt (nested : Prop) (outer inner : Nat) (openAt : List (List Nat)) (place instr : Nat)
    (slots : Slots) : Prop :=
  ∃ opened, openAt[instr]? = some opened ∧ slots.Parted nested outer inner opened place

theorem keeps_parted (labelled : program.Labelled (Keeping nested outer inner) openAt)
    (ordered : outer < inner) : program.Keeps (PartedAt nested outer inner openAt) where
  take found held := by
    obtain ⟨opened, here, parted⟩ := held
    exact ⟨opened, labelled.leads found here, parted.mono (Nat.le_succ _)⟩
  fork found held := by
    obtain ⟨opened, here, parted⟩ := held
    obtain ⟨first, second⟩ := labelled.leads found here
    exact ⟨⟨opened, first, parted⟩, ⟨opened, second, parted⟩⟩
  look found held := by
    obtain ⟨opened, here, parted⟩ := held
    exact ⟨opened, labelled.leads found here, parted⟩
  note found held := by
    obtain ⟨opened, here, parted⟩ := held
    obtain ⟨group, ⟨rfl, behind⟩ | ⟨rfl, rest, rfl, behind⟩⟩ := labelled.leads found here
    · exact ⟨group :: opened, behind, parted.opening ordered (labelled.allows behind)⟩
    · exact ⟨rest, behind, parted.closing ordered (labelled.allows here).1⟩

theorem noSlots_parted (place : Nat) : program.noSlots.Parted nested outer inner [] place := by
  have none {index later : Nat} {span : Span} : ¬ program.noSlots.Spans [] index later span :=
    fun spans => nomatch List.eq_of_mem_replicate (List.mem_of_getElem? spans.starts)
  exact ⟨noSlots_within place, fun _ spans => absurd spans none, fun _ _ spans => absurd spans none⟩

theorem match_parted (labelled : program.Labelled (Keeping nested outer inner) openAt)
    (ordered : outer < inner) {text : List Char} {slots : Slots}
    (found : program.search text = some slots) :
    ∃ place, slots.Parted nested outer inner [] place := by
  have starts : ∀ place, PartedAt nested outer inner openAt place program.start program.noSlots :=
    fun place => ⟨[], labelled.started, noSlots_parted place⟩
  obtain ⟨place, instr, _, accepts, opened, here, parted⟩ :=
    search_holds (keeps_parted labelled ordered) starts found
  have closed : opened = [] := labelled.leads accepts here
  exact ⟨place, closed ▸ parted⟩

end Program

namespace Slots.Parted
variable {nested : Prop} {outer inner place index : Nat} {slots : Slots} {span span' : Span}

theorem group_forward (parted : slots.Parted nested outer inner [] place)
    (found : slots.group? index = some span) : span.start ≤ span.stop :=
  parted.forward (Nat.le_refl place) (spans_iff_group?.2 found)

theorem groups_apart (parted : slots.Parted nested outer inner [] place)
    (first : slots.group? outer = some span) (second : slots.group? inner = some span') :
    span.Apart span' ∨ (nested ∧ span'.Inside span) :=
  parted.parted (Nat.le_refl place) (Nat.le_refl place) (spans_iff_group?.2 first)
    (spans_iff_group?.2 second)

end Slots.Parted

/-! ## Two groups of a pattern -/

/-- Neither of two groups is written within the other. -/
def Tree.Separates (tree : Tree) (one other : Nat) : Prop :=
  tree.Nests (fun opened => one ∉ opened ∨ other ∉ opened) [0]

theorem Tree.parse_keeping {pattern : List Char} {tree : Tree} (parsed : Tree.parse pattern = .ok tree)
    (outer inner : Nat) : tree.Nests (Keeping (¬ tree.Separates outer inner) outer inner) [0] := by
  have ascending := Tree.parse_ascending parsed
  by_cases separates : tree.Separates outer inner
  · apply Tree.Nests.combine _ tree [0] ascending separates
    intro opened ascending apart
    refine ⟨ascending, fun first second => ?_⟩
    cases apart with
    | inl closed => exact absurd first closed
    | inr closed => exact absurd second closed
  · apply Tree.Nests.combine _ tree [0] ascending ascending
    intro opened ascending _
    exact ⟨ascending, fun _ _ => separates⟩

/-- What the slots of a match of a pattern say of any two groups.  Those that are written apart are never
open together, so only the others may have one span within the other. -/
theorem search_parted {pattern : String} {program : Program} (compiled : compile pattern = .ok program) :
    ∃ tree, Tree.parse pattern.toList = .ok tree ∧
      ∀ (outer inner : Nat) {text : List Char} {slots : Slots}, outer < inner →
        program.search text = some slots →
        ∃ place, slots.Parted (¬ tree.Separates outer inner) outer inner [] place := by
  obtain ⟨tree, parsed, compiled⟩ := bind_eq_ok compiled
  obtain ⟨expr, meant, same⟩ := bind_eq_ok compiled
  cases same
  refine ⟨tree, parsed, ?_⟩
  intro outer inner text slots ordered found
  have none : Keeping (¬ tree.Separates outer inner) outer inner [] :=
    ⟨List.Pairwise.nil, fun _ => nofun⟩
  have whole : Keeping (¬ tree.Separates outer inner) outer inner [0] := by
    refine ⟨List.pairwise_singleton _ _, fun _ member => ?_⟩
    have zero := List.mem_singleton.1 member
    omega
  obtain ⟨openAt, labelled⟩ := Expr.program_labelled none whole
    (Expr.ofTree?_nests meant (Tree.parse_keeping parsed outer inner))
  exact Program.match_parted labelled ordered found

end PackageDoc.Regex
