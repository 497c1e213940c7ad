import PackageDoc.Regex.Search

/-! # Threads one after another

What a search finds by running threads side by side is what trying them one after another gives: a
fork is tried on its second side when the first one fails.  Side by side, an instruction that an
earlier thread has reached at the same place is not followed again.  That loses nothing, since whether
a thread succeeds does not depend on its slots. -/
set_option autoImplicit false

namespace PackageDoc.Regex

/-- What trying a thread gives, in front of a text of which `position` characters have been passed. -/
inductive Program.Tries (program : Program) :
    Nat → Option Char → List Char → Nat → Slots → Option Slots → Prop
  | outside {position previous text instr slots} (missing : program.code[instr]? = none) :
      Tries program position previous text instr slots none
  | accept {position previous text instr slots} (code : program.code[instr]? = some .accept) :
      Tries program position previous text instr slots (some slots)
  | take {position previous c rest instr slots set next result}
      (code : program.code[instr]? = some (.take set next)) (member : set.contains c = true)
      (tries : Tries program (position + 1) (some c) rest next slots result) :
      Tries program position previous (c :: rest) instr slots result
  | refuse {position previous c rest instr slots set next}
      (code : program.code[instr]? = some (.take set next)) (other : set.contains c = false) :
      Tries program position previous (c :: rest) instr slots none
  | stop {position previous instr slots set next}
      (code : program.code[instr]? = some (.take set next)) :
      Tries program position previous [] instr slots none
  | preferred {position previous text instr slots first second found}
      (code : program.code[instr]? = some (.fork first second))
      (tries : Tries program position previous text first slots (some found)) :
      Tries program position previous text instr slots (some found)
  | other {position previous text instr slots first second result}
      (code : program.code[instr]? = some (.fork first second))
      (fails : Tries program position previous text first slots none)
      (tries : Tries program position previous text second slots result) :
      Tries program position previous text instr slots result
  | look {position previous text instr slots look next result}
      (code : program.code[instr]? = some (.look look next))
      (holds : look.holds ⟨position, previous, text.head?⟩ = true)
      (tries : Tries program position previous text next slots result) :
      Tries program position previous text instr slots result
  | blocked {position previous text instr slots look next}
      (code : program.code[instr]? = some (.look look next))
      (fails : look.holds ⟨position, previous, text.head?⟩ = false) :
      Tries program position previous text instr slots none
  | note {position previous text instr slots slot next result}
      (code : program.code[instr]? = some (.note slot next))
      (tries : Tries program position previous text next (slots.set slot (some position)) result) :
      Tries program position previous text instr slots result

namespace Program
variable {program : Program} {position : Nat} {previous : Option Char} {text : List Char}
  {instr : Nat} {slots : Slots} {result : Option Slots}

theorem Tries.unique {one other : Option Slots}
    (tries : program.Tries position previous text instr slots one)
    (again : program.Tries position previous text instr slots other) : one = other := by
  induction tries generalizing other with
  | outside missing => cases again <;> simp_all
  | accept code => cases again <;> simp_all
  | refuse code out => cases again <;> simp_all
  | stop code => cases again <;> simp_all
  | blocked code fails => cases again <;> simp_all
  | take code member _ ih =>
    cases again with
    | take code' _ rest =>
      rw [code] at code'
      cases code'
      exact ih rest
    | _ => simp_all
  | look code holds _ ih =>
    cases again with
    | look code' _ rest =>
      rw [code] at code'
      cases code'
      exact ih rest
    | _ => simp_all
  | note code _ ih =>
    cases again with
    | note code' rest =>
      rw [code] at code'
      cases code'
      exact ih rest
    | _ => simp_all
  | preferred code _ ih =>
    cases again with
    | preferred code' rest =>
      rw [code] at code'
      cases code'
      exact ih rest
    | other code' fails _ =>
      rw [code] at code'
      cases code'
      exact absurd (ih fails) (by simp)
    | _ => simp_all
  | other code _ _ lost ih =>
    cases again with
    | preferred code' rest =>
      rw [code] at code'
      cases code'
      exact absurd (lost rest) (by simp)
    | other code' _ rest =>
      rw [code] at code'
      cases code'
      exact ih rest
    | _ => simp_all

/-- Slots do not decide whether a thread fails. -/
theorem Tries.fails (tries : program.Tries position previous text instr slots none)
    (slots' : Slots) : program.Tries position previous text instr slots' none := by
  generalize failed : none = result at tries
  induction tries generalizing slots' with
  | outside missing => exact .outside missing
  | accept code => cases failed
  | take code member _ ih => exact .take code member (ih slots' failed)
  | refuse code out => exact .refuse code out
  | stop code => exact .stop code
  | preferred code _ _ => cases failed
  | other code _ _ lost ih => exact .other code (lost slots' rfl) (ih slots' failed)
  | look code holds _ ih => exact .look code holds (ih slots' failed)
  | blocked code fails => exact .blocked code fails
  | note code _ ih => exact .note code (ih _ failed)

/-! ## Threads in a row -/

def Waits (program : Program) (thread : Thread) : Prop :=
  program.code[thread.instr]? = some .accept ∨
    ∃ set next, program.code[thread.instr]? = some (.take set next)

/-- What the first of some threads gives that does not fail. -/
inductive Firsts (program : Program) (position : Nat) (previous : Option Char)
    (text : List Char) : List Thread → Option Slots → Prop
  | nil : Firsts program position previous text [] none
  | lost {thread rest result} (waits : program.Waits thread)
      (fails : program.Tries position previous text thread.instr thread.slots none)
      (behind : Firsts program position previous text rest result) :
      Firsts program position previous text (thread :: rest) result
  | won {thread rest found} (waits : program.Waits thread)
      (tries : program.Tries position previous text thread.instr thread.slots (some found)) :
      Firsts program position previous text (thread :: rest) (some found)

theorem Firsts.single {thread : Thread} (waits : program.Waits thread)
    (tries : program.Tries position previous text thread.instr thread.slots result) :
    program.Firsts position previous text [thread] result := by
  cases result with
  | none => exact .lost waits tries .nil
  | some found => exact .won waits tries

theorem Firsts.append {threads others : List Thread}
    (front : program.Firsts position previous text threads none)
    (behind : program.Firsts position previous text others result) :
    program.Firsts position previous text (threads ++ others) result := by
  generalize failed : none = before at front
  induction front with
  | nil => exact behind
  | lost waits fails _ ih => exact .lost waits fails (ih failed)
  | won _ _ => cases failed

theorem Firsts.append_right {threads : List Thread} {found : Slots}
    (front : program.Firsts position previous text threads (some found)) (others : List Thread) :
    program.Firsts position previous text (threads ++ others) (some found) := by
  generalize success : some found = before at front
  induction front with
  | nil => cases success
  | lost waits fails _ ih => exact .lost waits fails (ih success)
  | won waits tries => exact .won waits tries

/-! ## Steps that take no character -/

/-- The instructions to which a thread goes from an instruction without taking a character. -/
def passes (program : Program) (instr : Nat) : List Nat :=
  match program.code[instr]? with
  | some (.fork first second) => [first, second]
  | some (.look _ next) | some (.note _ next) => [next]
  | _ => []

/-- The place of an instruction, zero if a thread waits there. -/
def rank (program : Program) (instr : Nat) : Nat :=
  if program.passes instr = [] then 0 else instr + 1

/-- Before it waits, a thread goes to earlier instructions only. -/
def Descends (program : Program) : Prop :=
  ∀ instr < program.code.size, ∀ next ∈ program.passes instr, program.rank next < program.rank instr

instance (program : Program) : Decidable program.Descends :=
  inferInstanceAs (Decidable (∀ instr < program.code.size, ∀ next ∈ program.passes instr,
    program.rank next < program.rank instr))

theorem lt_size_of_passes {instr : Nat} (some : program.passes instr ≠ []) :
    instr < program.code.size := by
  rcases Nat.lt_or_ge instr program.code.size with inside | outside
  · exact inside
  · unfold passes at some
    rw [Array.getElem?_eq_none outside] at some
    exact absurd rfl some

theorem rank_le (program : Program) (instr : Nat) : program.rank instr ≤ program.code.size := by
  unfold rank
  split
  · exact Nat.zero_le _
  next some => exact lt_size_of_passes some

theorem Descends.lt {next : Nat} (descends : program.Descends)
    (passes : next ∈ program.passes instr) : program.rank next < program.rank instr :=
  descends instr (lt_size_of_passes (List.ne_nil_of_mem passes)) next passes

theorem Descends.fork (descends : program.Descends) {first second : Nat}
    (code : program.code[instr]? = some (.fork first second)) :
    program.rank first < program.rank instr ∧ program.rank second < program.rank instr :=
  ⟨descends.lt (by simp [passes, code]), descends.lt (by simp [passes, code])⟩

theorem Descends.look (descends : program.Descends) {look : Look} {next : Nat}
    (code : program.code[instr]? = some (.look look next)) :
    program.rank next < program.rank instr := descends.lt (by simp [passes, code])

theorem Descends.note (descends : program.Descends) {slot next : Nat}
    (code : program.code[instr]? = some (.note slot next)) :
    program.rank next < program.rank instr := descends.lt (by simp [passes, code])

/-- A frontier of threads that fail.  What was reached fails as well, unless it is still being
followed. -/
structure Lost (program : Program) (position : Nat) (previous : Option Char) (text : List Char)
    (pending : List Nat) (frontier : Frontier) : Prop where
  threads : program.Firsts position previous text frontier.threads.reverse none
  reached : ∀ instr ∈ frontier.reached, instr ∈ pending ∨
    ∀ slots, program.Tries position previous text instr slots none

/-- A frontier after a thread was followed with a result. -/
def After (program : Program) (position : Nat) (previous : Option Char) (text : List Char)
    (pending : List Nat) (frontier : Frontier) : Option Slots → Prop
  | none => program.Lost position previous text pending frontier
  | some found => program.Firsts position previous text frontier.threads.reverse (some found)

theorem After.firsts {pending : List Nat} {frontier : Frontier}
    (after : program.After position previous text pending frontier result) :
    program.Firsts position previous text frontier.threads.reverse result := by
  cases result with
  | none => exact after.threads
  | some found => exact after

variable {pending : List Nat} {frontier : Frontier}

theorem Lost.empty : program.Lost position previous text [] {} :=
  ⟨.nil, fun _ member => absurd member List.not_mem_nil⟩

theorem Lost.enter (lost : program.Lost position previous text pending frontier) (instr : Nat) :
    program.Lost position previous text (instr :: pending)
      { frontier with reached := instr :: frontier.reached } := by
  refine ⟨lost.threads, ?_⟩
  intro earlier member
  rcases List.mem_cons.1 member with rfl | member
  · exact Or.inl List.mem_cons_self
  · rcases lost.reached earlier member with inside | fails
    · exact Or.inl (List.mem_cons_of_mem _ inside)
    · exact Or.inr fails

theorem After.leave (tries : program.Tries position previous text instr slots result)
    (after : program.After position previous text (instr :: pending) frontier result) :
    program.After position previous text pending frontier result := by
  cases result with
  | some found => exact after
  | none =>
    refine ⟨after.threads, ?_⟩
    intro earlier member
    rcases after.reached earlier member with inside | fails
    · rcases List.mem_cons.1 inside with rfl | inside
      · exact Or.inr tries.fails
      · exact Or.inl inside
    · exact Or.inr fails

theorem After.wait (lost : program.Lost position previous text pending frontier)
    (waits : program.Waits ⟨instr, slots⟩)
    (tries : program.Tries position previous text instr slots result) :
    program.After position previous text pending
      { frontier with threads := ⟨instr, slots⟩ :: frontier.threads } result := by
  have threads : program.Firsts position previous text
      (⟨instr, slots⟩ :: frontier.threads).reverse result := by
    rw [List.reverse_cons]
    exact lost.threads.append (.single waits tries)
  cases result with
  | none => exact ⟨threads, lost.reached⟩
  | some found => exact threads

/-- Following a thread puts new threads behind those that are there. -/
theorem explore_threads (program : Program) (place : Place) : ∀ (fuel instr : Nat) (slots : Slots)
    (frontier : Frontier), ∃ more,
      (program.explore place fuel instr slots frontier).threads = more ++ frontier.threads := by
  intro fuel
  induction fuel with
  | zero => intro instr slots frontier; exact ⟨[], rfl⟩
  | succ fuel ih =>
    intro instr slots frontier
    unfold explore
    split
    · exact ⟨[], rfl⟩
    · dsimp only
      split
      · exact ⟨[], rfl⟩
      · exact ⟨[_], rfl⟩
      · exact ⟨[_], rfl⟩
      next first second _ =>
        obtain ⟨one, earlier⟩ := ih first slots { frontier with reached := instr :: frontier.reached }
        obtain ⟨two, later⟩ := ih second slots
          (program.explore place fuel first slots
            { frontier with reached := instr :: frontier.reached })
        exact ⟨two ++ one, by rw [later, earlier, List.append_assoc]⟩
      · split
        · exact ih _ _ _
        · exact ⟨[], rfl⟩
      · exact ih _ _ _

theorem explore_won (place : Place) (fuel : Nat) {found : Slots}
    (won : program.Firsts position previous text frontier.threads.reverse (some found)) :
    program.Firsts position previous text
      (program.explore place fuel instr slots frontier).threads.reverse (some found) := by
  obtain ⟨more, threads⟩ := program.explore_threads place fuel instr slots frontier
  rw [threads, List.reverse_append]
  exact won.append_right _

/-- Following a thread adds the threads by which it is tried. -/
theorem explore_of_tries (descends : program.Descends) : ∀ (fuel instr : Nat) (slots : Slots)
    (result : Option Slots) (pending : List Nat) (frontier : Frontier),
    program.Tries position previous text instr slots result → program.rank instr < fuel →
    (∀ earlier ∈ pending, program.rank instr < program.rank earlier) →
    program.Lost position previous text pending frontier →
    program.After position previous text pending
      (program.explore ⟨position, previous, text.head?⟩ fuel instr slots frontier) result := by
  intro fuel
  induction fuel with
  | zero => intro _ _ _ _ _ _ short; omega
  | succ fuel ih =>
    intro instr slots result pending frontier tries short above lost
    unfold explore
    by_cases seen : frontier.reached.contains instr = true
    · rw [if_pos seen]
      rcases lost.reached instr (List.contains_iff_mem.1 seen) with inside | fails
      · exact absurd (above instr inside) (Nat.lt_irrefl _)
      · obtain rfl := tries.unique (fails slots)
        exact lost
    · rw [if_neg seen]
      have entered := lost.enter instr
      have deeper : ∀ next, program.rank next < program.rank instr → program.rank next < fuel ∧
          ∀ earlier ∈ instr :: pending, program.rank next < program.rank earlier := by
        intro next less
        refine ⟨by omega, ?_⟩
        intro earlier member
        rcases List.mem_cons.1 member with rfl | member
        · exact less
        · exact Nat.lt_trans less (above earlier member)
      refine After.leave tries ?_
      cases tries with
      | outside missing =>
        rw [missing]
        exact entered
      | accept code =>
        rw [code]
        exact .wait entered (Or.inl code) (.accept code)
      | take code member rest =>
        rw [code]
        exact .wait entered (Or.inr ⟨_, _, code⟩) (.take code member rest)
      | refuse code out =>
        rw [code]
        exact .wait entered (Or.inr ⟨_, _, code⟩) (.refuse code out)
      | stop code =>
        rw [code]
        exact .wait entered (Or.inr ⟨_, _, code⟩) (.stop code)
      | blocked code fails =>
        rw [code]
        dsimp only
        rw [if_neg (by rw [fails]; exact Bool.false_ne_true)]
        exact entered
      | look code holds rest =>
        rw [code]
        dsimp only
        rw [if_pos holds]
        obtain ⟨enough, below⟩ := deeper _ (descends.look code)
        exact ih _ _ _ _ _ rest enough below entered
      | note code rest =>
        rw [code]
        obtain ⟨enough, below⟩ := deeper _ (descends.note code)
        exact ih _ _ _ _ _ rest enough below entered
      | preferred code rest =>
        rw [code]
        obtain ⟨enough, below⟩ := deeper _ (descends.fork code).1
        exact explore_won _ _ (ih _ _ _ _ _ rest enough below entered)
      | other code fails rest =>
        rw [code]
        obtain ⟨enough, below⟩ := deeper _ (descends.fork code).1
        obtain ⟨enough', below'⟩ := deeper _ (descends.fork code).2
        exact ih _ _ _ _ _ rest enough' below' (ih _ _ _ _ _ fails enough below entered)

theorem follow_of_tries (descends : program.Descends)
    (tries : program.Tries position previous text instr slots result)
    (lost : program.Lost position previous text [] frontier) :
    program.After position previous text []
      (program.follow ⟨position, previous, text.head?⟩ instr slots frontier) result :=
  explore_of_tries descends _ _ _ _ _ _ tries (Nat.lt_succ_of_le (program.rank_le instr))
    (fun _ member => absurd member List.not_mem_nil) lost

/-! ## Steps over a character -/

theorem advance_threads (program : Program) (c : Char) (place : Place) :
    ∀ (threads : List Thread) (frontier : Frontier), ∃ more,
      (program.advance c place threads frontier).1.threads = more ++ frontier.threads := by
  intro threads
  induction threads with
  | nil => intro frontier; exact ⟨[], rfl⟩
  | cons thread rest ih =>
    intro frontier
    unfold advance
    split
    · exact ⟨[], rfl⟩
    next set next _ =>
      split
      · obtain ⟨later, behind⟩ := ih (program.follow place next thread.slots frontier)
        obtain ⟨more, followed⟩ := program.explore_threads place (program.code.size + 1) next
          thread.slots frontier
        unfold follow at behind ⊢
        exact ⟨later ++ more, by rw [behind, followed, List.append_assoc]⟩
      · exact ih frontier
    · exact ih frontier

/-- What threads give after a step over a character: either a later place decides, or a thread that
accepts. -/
inductive Moved (program : Program) (position : Nat) (previous : Option Char)
    (text : List Char) : Frontier × Option Slots → Option Slots → Prop
  | here {frontier : Frontier} {result : Option Slots}
      (lost : program.Lost position previous text [] frontier) :
      Moved program position previous text (frontier, result) result
  | later {moved : Frontier × Option Slots} {found : Slots}
      (won : program.Firsts position previous text moved.1.threads.reverse (some found)) :
      Moved program position previous text moved (some found)

theorem Moved.of_won {c : Char} {place : Place} {found : Slots} (threads : List Thread)
    (won : program.Firsts position previous text frontier.threads.reverse (some found)) :
    program.Moved position previous text (program.advance c place threads frontier)
      (some found) := by
  obtain ⟨more, extended⟩ := program.advance_threads c place threads frontier
  refine .later ?_
  rw [extended, List.reverse_append]
  exact won.append_right _

theorem advance_of_firsts (descends : program.Descends) {c : Char} {rest : List Char}
    {threads : List Thread}
    (firsts : program.Firsts position previous (c :: rest) threads result) :
    ∀ {frontier : Frontier}, program.Lost (position + 1) (some c) rest [] frontier →
      program.Moved (position + 1) (some c) rest
        (program.advance c ⟨position + 1, some c, rest.head?⟩ threads frontier) result := by
  induction firsts with
  | nil => intro frontier lost; exact .here lost
  | @lost thread behind result waits fails _ ih =>
    intro frontier lost
    unfold advance
    rcases waits with code | ⟨set, next, code⟩
    · cases fails <;> simp_all
    · rw [code]
      dsimp only
      cases fails with
      | take code' member tries =>
        rw [code] at code'
        cases code'
        rw [if_pos member]
        exact ih (follow_of_tries descends tries lost)
      | refuse code' out =>
        rw [code] at code'
        cases code'
        rw [if_neg (by rw [out]; exact Bool.false_ne_true)]
        exact ih lost
      | _ => simp_all
  | @won thread behind found waits tries =>
    intro frontier lost
    unfold advance
    rcases waits with code | ⟨set, next, code⟩
    · rw [code]
      cases tries with
      | accept _ => exact .here lost
      | _ => simp_all
    · rw [code]
      dsimp only
      cases tries with
      | take code' member tries =>
        rw [code] at code'
        cases code'
        rw [if_pos member]
        exact .of_won _ (follow_of_tries descends tries lost)
      | _ => simp_all

theorem accepted_of_firsts {threads : List Thread}
    (firsts : program.Firsts position previous [] threads result) :
    program.accepted threads = result := by
  unfold accepted
  induction firsts with
  | nil => rfl
  | @lost thread _ _ waits fails _ ih =>
    have waiting : program.code[thread.instr]? ≠ some .accept := by
      intro code
      cases fails <;> simp_all
    rw [List.find?_cons_of_neg (by simpa using waiting)]
    exact ih
  | won waits tries =>
    cases tries with
    | accept code =>
      rw [List.find?_cons_of_pos (by simpa using code)]
      rfl
    | _ => rcases waits with code | ⟨set, next, code⟩ <;> simp_all

/-- Threads side by side find what they find one after another. -/
theorem runThreads_of_firsts (descends : program.Descends) : ∀ (text : List Char) (position : Nat)
    (previous : Option Char) (threads : List Thread) (result best : Option Slots),
    program.Firsts position previous text threads result →
    program.runThreads position text threads best = result.or best := by
  intro text
  induction text with
  | nil =>
    intro position previous threads result best firsts
    unfold runThreads
    rw [accepted_of_firsts firsts]
  | cons c rest ih =>
    intro position previous threads result best firsts
    unfold runThreads
    split
    next empty =>
      obtain rfl := List.isEmpty_iff.1 empty
      cases firsts
      rfl
    next some =>
      have moved := advance_of_firsts descends firsts .empty
      generalize program.advance c _ threads {} = after at moved
      cases moved with
      | here lost =>
        dsimp only
        rw [ih _ _ _ _ _ lost.threads]
        rfl
      | later won =>
        dsimp only
        rw [ih _ _ _ _ _ won]
        rfl

/-- A search at a place finds what trying the program there gives. -/
theorem matchAt_of_tries (descends : program.Descends)
    (tries : program.Tries position previous text program.start program.noSlots result) :
    program.matchAt position previous text = result := by
  have after := follow_of_tries descends tries .empty
  unfold matchAt
  dsimp only
  rw [runThreads_of_firsts descends _ _ _ _ _ _ after.firsts, Option.or_none]

theorem searchFrom_of_match (found : program.matchAt position previous text = some slots) :
    program.searchFrom position previous text = some slots := by
  cases text with
  | nil => exact found
  | cons c rest =>
    unfold searchFrom
    rw [found]
    rfl

theorem searchFrom_cons {c : Char} (none : program.matchAt position previous (c :: text) = none) :
    program.searchFrom position previous (c :: text) =
      program.searchFrom (position + 1) (some c) text := by
  rw [searchFrom, none, Option.none_or]

end Program
end PackageDoc.Regex
