import PackageDoc.Regex.Search

/-! # What every thread keeps

A property of the place, the instruction and the slots of a thread that holds at the start and that each
instruction passes on holds of every thread, so it holds of the match that a search finds. -/
set_option autoImplicit false

namespace PackageDoc.Regex.Program

/-- A property that the instructions of a program pass on. -/
structure Keeps (program : Program) (holds : Nat → Nat → Slots → Prop) : Prop where
  take {place instr next : Nat} {set : CharSet} {slots : Slots} :
    program.code[instr]? = some (.take set next) → holds place instr slots →
      holds (place + 1) next slots
  fork {place instr preferred other : Nat} {slots : Slots} :
    program.code[instr]? = some (.fork preferred other) → holds place instr slots →
      holds place preferred slots ∧ holds place other slots
  look {place instr next : Nat} {condition : Look} {slots : Slots} :
    program.code[instr]? = some (.look condition next) → holds place instr slots →
      holds place next slots
  note {place instr slot next : Nat} {slots : Slots} :
    program.code[instr]? = some (.note slot next) → holds place instr slots →
      holds place next (slots.set slot (some place))

variable {program : Program} {holds : Nat → Nat → Slots → Prop}

def AllHold (holds : Nat → Nat → Slots → Prop) (place : Nat) (threads : List Thread) : Prop :=
  ∀ thread ∈ threads, holds place thread.instr thread.slots

/-- A thread with these slots accepted at a place up to the bound. -/
def Ends (program : Program) (holds : Nat → Nat → Slots → Prop) (bound : Nat) (slots : Slots) : Prop :=
  ∃ place instr, place ≤ bound ∧ program.code[instr]? = some .accept ∧ holds place instr slots

theorem Ends.mono {bound wider : Nat} {slots : Slots} (ends : program.Ends holds bound slots)
    (bounded : bound ≤ wider) : program.Ends holds wider slots := by
  obtain ⟨place, instr, before, accepts, held⟩ := ends
  exact ⟨place, instr, Nat.le_trans before bounded, accepts, held⟩

theorem explore_holds (keeps : program.Keeps holds) {place : Place} :
    ∀ (fuel instr : Nat) (slots : Slots) (frontier : Frontier), holds place.position instr slots →
      AllHold holds place.position frontier.threads →
      AllHold holds place.position (program.explore place fuel instr slots frontier).threads := by
  intro fuel
  induction fuel with
  | zero => intro instr slots frontier _ before; exact before
  | succ fuel ih =>
    intro instr slots frontier held before
    have waits : AllHold holds place.position (⟨instr, slots⟩ :: frontier.threads) := by
      intro thread member
      cases List.mem_cons.1 member with
      | inl same => exact same ▸ held
      | inr member => exact before thread member
    unfold explore
    split
    · exact before
    · dsimp only
      split
      · exact before
      · exact waits
      · exact waits
      next preferred other found =>
        obtain ⟨first, second⟩ := keeps.fork found held
        exact ih _ _ _ second (ih _ _ _ first before)
      next condition next found =>
        split
        · exact ih _ _ _ (keeps.look found held) before
        · exact before
      next slot next found => exact ih _ _ _ (keeps.note found held) before

theorem advance_holds (keeps : program.Keeps holds) (c : Char) {place : Place} {position : Nat}
    (moved : place.position = position + 1) : ∀ (threads : List Thread) (frontier : Frontier),
    AllHold holds position threads → AllHold holds (position + 1) frontier.threads →
    AllHold holds (position + 1) (program.advance c place threads frontier).1.threads ∧
      ∀ slots ∈ (program.advance c place threads frontier).2,
        program.Ends holds position slots := by
  intro threads
  induction threads with
  | nil =>
    intro frontier _ before
    exact ⟨before, fun _ => nofun⟩
  | cons thread rest ih =>
    intro frontier held before
    have first := held thread List.mem_cons_self
    have others : AllHold holds position rest := fun other member =>
      held other (List.mem_cons_of_mem thread member)
    unfold advance
    split
    next accepts =>
      refine ⟨before, fun slots found => ?_⟩
      cases found
      exact ⟨position, thread.instr, Nat.le_refl _, accepts, first⟩
    next set next found =>
      split
      · apply ih _ others
        rw [← moved] at before ⊢
        exact explore_holds keeps _ _ _ _ (moved ▸ keeps.take found first) before
      · exact ih _ others before
    · exact ih _ others before

theorem accepted_holds {position : Nat} {threads : List Thread} (held : AllHold holds position threads) :
    ∀ slots ∈ program.accepted threads, program.Ends holds position slots := by
  intro slots found
  obtain ⟨thread, first, rfl⟩ := Option.map_eq_some_iff.1 found
  have accepts := List.find?_some first
  exact ⟨position, thread.instr, Nat.le_refl _, of_decide_eq_true accepts,
    held thread (List.mem_of_find?_eq_some first)⟩

theorem runThreads_holds (keeps : program.Keeps holds) : ∀ (text : List Char) (position : Nat)
    (threads : List Thread) (best : Option Slots), AllHold holds position threads →
    (∀ slots ∈ best, program.Ends holds (position + text.length) slots) →
    ∀ slots ∈ program.runThreads position text threads best,
      program.Ends holds (position + text.length) slots := by
  intro text
  induction text with
  | nil =>
    intro position threads best held before slots found
    rcases Option.or_eq_some_iff.1 found with accepted | ⟨_, earlier⟩
    · exact accepted_holds held slots accepted
    · exact before slots earlier
  | cons c rest ih =>
    intro position threads best held before
    have length : position + (c :: rest).length = position + 1 + rest.length := by
      rw [List.length_cons]
      omega
    unfold runThreads
    split
    · exact before
    · rw [length] at before ⊢
      let place : Place := ⟨position + 1, some c, rest.head?⟩
      have here : place.position = position + 1 := rfl
      obtain ⟨moved, found⟩ := advance_holds keeps c here threads {} held (fun _ => nofun)
      refine ih _ _ _ (fun thread member => moved thread (List.mem_reverse.1 member)) ?_
      intro slots best
      rcases Option.or_eq_some_iff.1 best with accepted | ⟨_, earlier⟩
      · exact (found slots accepted).mono (by omega)
      · exact before slots earlier

section Search
variable (keeps : program.Keeps holds)
  (starts : ∀ place, holds place program.start program.noSlots)
include keeps starts

theorem matchAt_holds {position : Nat} {previous : Option Char} {text : List Char} {slots : Slots}
    (found : program.matchAt position previous text = some slots) :
    program.Ends holds (position + text.length) slots := by
  refine runThreads_holds keeps text position _ none ?_ (fun _ => nofun) slots found
  intro thread member
  exact explore_holds keeps _ _ _ {} (starts position) (fun _ => nofun) thread
    (List.mem_reverse.1 member)

theorem searchFrom_holds {slots : Slots} : ∀ (text : List Char) (position : Nat)
    (previous : Option Char), program.searchFrom position previous text = some slots →
    program.Ends holds (position + text.length) slots := by
  intro text
  induction text with
  | nil => intro position previous found; exact matchAt_holds keeps starts found
  | cons c rest ih =>
    intro position previous found
    rcases Option.or_eq_some_iff.1 found with here | ⟨_, later⟩
    · exact matchAt_holds keeps starts here
    · exact (ih _ _ later).mono (by rw [List.length_cons]; omega)

/-- What every thread keeps holds of a match where it ends. -/
theorem search_holds {text : List Char} {slots : Slots} (found : program.search text = some slots) :
    program.Ends holds text.length slots := by
  have ends := searchFrom_holds keeps starts text 0 none found
  rwa [Nat.zero_add] at ends

end Search
end PackageDoc.Regex.Program
