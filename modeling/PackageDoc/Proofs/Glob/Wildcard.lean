import PackageDoc.Glob
import PackageDoc.Proofs.Unicode.Case

/-! # What a wildcard takes

`Globs` says how a wildcard takes a text, sign by sign.  The scan compares before it looks for a star, so
a star of the wildcard that stands at a star of the text takes that character alone; `Takes` says so.  The
scan resumes only the last star that it met, and that loses nothing, since what stands before the last
star has taken as little as it can.  Without stars on one of the two sides both relations agree. -/
set_option autoImplicit false

namespace PackageDoc.Glob
open PackageDoc.Unicode

/-- A star takes any run of characters, a question mark takes one, and every other sign takes
itself. -/
inductive Globs : List Char → List Char → Prop
  | nil : Globs [] []
  | star {wildcard rest : List Char} (run : List Char) (behind : Globs wildcard rest) :
      Globs ('*' :: wildcard) (run ++ rest)
  | one {wildcard text : List Char} (c : Char) (behind : Globs wildcard text) :
      Globs ('?' :: wildcard) (c :: text)
  | same {wildcard text : List Char} {sign : Char} (plain : sign ≠ '*' ∧ sign ≠ '?')
      (behind : Globs wildcard text) : Globs (sign :: wildcard) (sign :: text)

/-- The comparison that the scan makes first, for a star as for every other sign. -/
def Agrees (sign c : Char) : Prop := sign = '?' ∨ sign = c

/-- What the scan takes.  A star takes any run of characters, but not if it stands at a star. -/
inductive Takes : List Char → List Char → Prop
  | nil : Takes [] []
  | next {wildcard text : List Char} {sign c : Char} (agrees : Agrees sign c)
      (behind : Takes wildcard text) : Takes (sign :: wildcard) (c :: text)
  | star {wildcard rest : List Char} (run : List Char) (apart : (run ++ rest).head? ≠ some '*')
      (behind : Takes wildcard rest) : Takes ('*' :: wildcard) (run ++ rest)

variable {wildcard text behind rest : List Char} {sign c : Char}

/-- What stands behind a star takes what some run leaves. -/
def TakesLater (wildcard text : List Char) : Prop := ∃ rest, rest <:+ text ∧ Takes wildcard rest

/-! ## One sign -/

theorem takes_cons_iff : Takes (sign :: wildcard) text ↔
    (∃ c rest, text = c :: rest ∧ Agrees sign c ∧ Takes wildcard rest) ∨
      sign = '*' ∧ text.head? ≠ some '*' ∧ TakesLater wildcard text := by
  constructor
  · intro takes
    cases takes with
    | next agrees behind => exact .inl ⟨_, _, rfl, agrees, behind⟩
    | star run apart behind => exact .inr ⟨rfl, apart, _, List.suffix_append _ _, behind⟩
  · rintro (⟨c, rest, rfl, agrees, behind⟩ | ⟨rfl, apart, _, ⟨run, rfl⟩, behind⟩)
    · exact .next agrees behind
    · exact .star run apart behind

theorem takes_next_iff (agrees : Agrees sign c) :
    Takes (sign :: wildcard) (c :: text) ↔ Takes wildcard text := by
  constructor
  · intro takes
    rcases takes_cons_iff.1 takes with ⟨_, _, whole, _, behind⟩ | ⟨rfl, apart, _⟩
    · cases whole
      exact behind
    · -- A star agrees with nothing but a star, and there it has no other way.
      rcases agrees with mark | same
      · exact absurd mark (by decide)
      · exact absurd (congrArg some same.symm) apart
  · exact .next agrees

theorem takes_star_iff (apart : text.head? ≠ some '*') :
    Takes ('*' :: wildcard) text ↔ TakesLater wildcard text := by
  rw [takes_cons_iff]
  constructor
  · rintro (⟨c, rest, rfl, mark | rfl, _⟩ | ⟨_, _, later⟩)
    · exact absurd mark (by decide)
    · exact absurd rfl apart
    · exact later
  · exact fun later => .inr ⟨rfl, apart, later⟩

theorem agrees_of_takes (plain : sign ≠ '*') (takes : Takes (sign :: wildcard) (c :: text)) :
    Agrees sign c := by
  rcases takes_cons_iff.1 takes with ⟨_, _, whole, agrees, _⟩ | ⟨star, _⟩
  · cases whole
    exact agrees
  · exact absurd star plain

theorem takesLater_of_takes (takes : Takes (sign :: wildcard) text) : TakesLater wildcard text := by
  rcases takes_cons_iff.1 takes with ⟨c, rest, rfl, _, behind⟩ | ⟨_, _, later⟩
  · exact ⟨rest, List.suffix_cons c rest, behind⟩
  · exact later

theorem TakesLater.of_suffix (suffix : rest <:+ text) (later : TakesLater wildcard rest) :
    TakesLater wildcard text := by
  obtain ⟨final, shorter, takes⟩ := later
  exact ⟨final, shorter.trans suffix, takes⟩

theorem takesLater_nil_iff : TakesLater wildcard [] ↔ Takes wildcard [] := by
  unfold TakesLater
  simp only [List.suffix_nil, exists_eq_left]

theorem takes_nil_iff : Takes wildcard [] ↔ wildcard.all (· = '*') = true := by
  induction wildcard with
  | nil => exact iff_of_true .nil rfl
  | cons sign wildcard ih =>
    rw [takes_cons_iff, takesLater_nil_iff, ih, List.all_cons, Bool.and_eq_true, decide_eq_true_eq]
    simp

/-! ## One scan -/

/-- Comparing sign by sign, the scan comes from a wildcard and a text to `behind` and `rest`. -/
inductive Reaches (behind rest : List Char) : List Char → List Char → Prop
  | here : Reaches behind rest behind rest
  | next {wildcard text : List Char} {sign c : Char} (agrees : Agrees sign c)
      (later : Reaches behind rest wildcard text) : Reaches behind rest (sign :: wildcard) (c :: text)

theorem Reaches.takes_iff (reaches : Reaches behind rest wildcard text) :
    Takes wildcard text ↔ Takes behind rest := by
  induction reaches with
  | here => rfl
  | next agrees _ ih => rw [takes_next_iff agrees, ih]

/-- Starting later does not leave more for the part of the wildcard that the scan comes to. -/
theorem Reaches.takesLater (reaches : Reaches behind rest wildcard text)
    (later : TakesLater wildcard text) : TakesLater behind rest := by
  induction reaches with
  | here => exact later
  | next agrees _ ih =>
    obtain ⟨other, suffix, takes⟩ := later
    apply ih
    rcases List.suffix_cons_iff.1 suffix with rfl | shorter
    · exact ⟨_, List.suffix_rfl, (takes_next_iff agrees).1 takes⟩
    · exact (takesLater_of_takes takes).of_suffix shorter

theorem Reaches.length_le (reaches : Reaches behind rest wildcard text) :
    behind.length + rest.length ≤ wildcard.length + text.length := by
  induction reaches with
  | here => exact Nat.le_refl _
  | next _ _ ih =>
    rw [List.length_cons, List.length_cons]
    omega

/-- What a scan has found out. -/
def Found (wildcard text : List Char) : Scan → Prop
  | .ended onlyStars => ∃ behind, Reaches behind [] wildcard text ∧ onlyStars = behind.all (· = '*')
  | .star behind rest => Reaches ('*' :: behind) rest wildcard text ∧ rest.head? ≠ some '*'
  | .stuck => ¬ Takes wildcard text

theorem Found.next (agrees : Agrees sign c) {result : Scan} (found : Found wildcard text result) :
    Found (sign :: wildcard) (c :: text) result := by
  cases result with
  | ended =>
    obtain ⟨behind, reaches, only⟩ := found
    exact ⟨behind, .next agrees reaches, only⟩
  | star => exact ⟨.next agrees found.1, found.2⟩
  | stuck => exact fun takes => found ((takes_next_iff agrees).1 takes)

theorem found_scan (wildcard text : List Char) : Found wildcard text (scan wildcard text) := by
  fun_induction scan wildcard text with
  | case1 wildcard => exact ⟨wildcard, .here, rfl⟩
  | case2 c text =>
    intro takes
    cases takes
  | case3 sign wildcard c text agrees ih => exact Found.next agrees ih
  | case4 wildcard c text other =>
    refine ⟨.here, ?_⟩
    rw [List.head?_cons, ne_eq, Option.some.injEq]
    exact fun same => other (Or.inr same.symm)
  | case5 sign wildcard c text other plain => exact fun takes => other (agrees_of_takes plain takes)

/-! ## Resuming the last star -/

theorem takesLater_star_iff (reaches : Reaches ('*' :: behind) rest wildcard text)
    (apart : rest.head? ≠ some '*') : TakesLater wildcard text ↔ TakesLater behind rest := by
  constructor
  · intro later
    obtain ⟨middle, suffix, takes⟩ := reaches.takesLater later
    exact (takesLater_of_takes takes).of_suffix suffix
  · intro later
    exact ⟨text, List.suffix_rfl, reaches.takes_iff.2 ((takes_star_iff apart).2 later)⟩

theorem takesLater_ended_iff (reaches : Reaches behind [] wildcard text) :
    TakesLater wildcard text ↔ behind.all (· = '*') = true := by
  rw [← takes_nil_iff]
  constructor
  · intro later
    exact takesLater_nil_iff.1 (reaches.takesLater later)
  · intro takes
    exact ⟨text, List.suffix_rfl, reaches.takes_iff.2 takes⟩

theorem takesLater_cons_iff (stuck : ¬ Takes wildcard (c :: text)) :
    TakesLater wildcard (c :: text) ↔ TakesLater wildcard text := by
  constructor
  · rintro ⟨rest, suffix, takes⟩
    rcases List.suffix_cons_iff.1 suffix with rfl | later
    · exact absurd takes stuck
    · exact ⟨rest, later, takes⟩
  · exact fun later => later.of_suffix (List.suffix_cons c text)

theorem scanBehindStar_iff : ∀ (fuel : Nat) (wildcard text : List Char),
    wildcard.length + text.length < fuel →
      (scanBehindStar fuel wildcard text = true ↔ TakesLater wildcard text) := by
  intro fuel
  induction fuel with
  | zero => intro wildcard text short; exact absurd short (Nat.not_lt_zero _)
  | succ fuel ih =>
    intro wildcard text short
    have found := found_scan wildcard text
    unfold scanBehindStar
    generalize scan wildcard text = result at found
    cases result with
    | ended onlyStars =>
      obtain ⟨behind, reaches, rfl⟩ := found
      exact (takesLater_ended_iff reaches).symm
    | star behind rest =>
      obtain ⟨reaches, apart⟩ := found
      rw [takesLater_star_iff reaches apart]
      have fewer := reaches.length_le
      rw [List.length_cons] at fewer
      exact ih behind rest (by omega)
    | stuck =>
      cases text with
      | nil =>
        rw [takesLater_nil_iff]
        exact iff_of_false Bool.false_ne_true found
      | cons c text =>
        rw [takesLater_cons_iff found]
        rw [List.length_cons] at short
        exact ih wildcard text (by omega)

theorem takes_iff (wildcard text : List Char) : takes wildcard text = true ↔ Takes wildcard text := by
  have found := found_scan wildcard text
  unfold takes
  generalize scan wildcard text = result at found
  cases result with
  | ended onlyStars =>
    obtain ⟨behind, reaches, rfl⟩ := found
    exact takes_nil_iff.symm.trans reaches.takes_iff.symm
  | star behind rest =>
    obtain ⟨reaches, apart⟩ := found
    rw [reaches.takes_iff, takes_star_iff apart]
    exact scanBehindStar_iff _ behind rest (Nat.lt_succ_self _)
  | stuck => exact iff_of_false Bool.false_ne_true found

/-! ## Any run for a star -/

theorem globs_of_takes (takes : Takes wildcard text) : Globs wildcard text := by
  induction takes with
  | nil => exact .nil
  | @next wildcard text sign c agrees _ ih =>
    rcases agrees with rfl | rfl
    · exact .one c ih
    · by_cases star : sign = '*'
      · subst star
        exact .star ['*'] ih
      · by_cases mark : sign = '?'
        · subst mark
          exact .one '?' ih
        · exact .same ⟨star, mark⟩ ih
  | star run _ _ ih => exact .star run ih

theorem takes_of_globs (globs : Globs wildcard text) (plain : '*' ∉ wildcard ∨ '*' ∉ text) :
    Takes wildcard text := by
  induction globs with
  | nil => exact .nil
  | @star wildcard rest run _ ih =>
    have free : '*' ∉ run ++ rest := plain.resolve_left fun free => free List.mem_cons_self
    have apart : (run ++ rest).head? ≠ some '*' := fun first => free (List.mem_of_head? first)
    exact .star run apart (ih (.inr fun member => free (List.mem_append_right _ member)))
  | one c _ ih =>
    exact .next (.inl rfl) (ih (plain.imp (mt (List.mem_cons_of_mem _)) (mt (List.mem_cons_of_mem _))))
  | same _ _ ih =>
    exact .next (.inr rfl) (ih (plain.imp (mt (List.mem_cons_of_mem _)) (mt (List.mem_cons_of_mem _))))

/-- If the segment or the text has no stars, the scan takes exactly what the wildcard globs. -/
theorem takes_iff_globs (plain : '*' ∉ wildcard ∨ '*' ∉ text) :
    takes wildcard text = true ↔ Globs wildcard text := by
  rw [takes_iff]
  exact ⟨globs_of_takes, fun globs => takes_of_globs globs plain⟩

theorem star_notMem_compared (caseSensitive : Bool) {segment : Segment} (plain : '*' ∉ segment) :
    '*' ∉ compared caseSensitive segment := by
  unfold compared
  split
  · exact plain
  · rwa [mem_lowercaseAll_iff (by decide)]

/-! ## Segments -/

/-- A segment takes what the scan does.  All of that is globbed, and without stars in the segment or in the
name nothing that is globbed is missed. -/
theorem segment_accepts_as_scanned (segment name : Segment) (caseSensitive : Bool) :
    let wildcard := compared caseSensitive segment
    let text := compared caseSensitive name
    (segmentAccepts caseSensitive segment name = true ↔ Takes wildcard text) ∧
    (segmentAccepts caseSensitive segment name = true → Globs wildcard text) ∧
    ('*' ∉ segment ∨ '*' ∉ name →
      (segmentAccepts caseSensitive segment name = true ↔ Globs wildcard text)) := by
  intro wildcard text
  refine ⟨takes_iff wildcard text, ?_, ?_⟩
  · intro accepted
    exact globs_of_takes ((takes_iff wildcard text).1 accepted)
  · intro plain
    exact takes_iff_globs (plain.imp (star_notMem_compared _) (star_notMem_compared _))

theorem segment_accepts_as_scanned_sample :
    '*' ∉ "WidgetModel".toList ∧ segmentAccepts false "*D?e*L".toList "WidgetModel".toList = true ∧
      Globs (compared false "*D?e*L".toList) (compared false "WidgetModel".toList) := by
  have plain : '*' ∉ "WidgetModel".toList := by decide
  have accepted : segmentAccepts false "*D?e*L".toList "WidgetModel".toList = true := by
    decide +kernel
  exact ⟨plain, accepted, ((segment_accepts_as_scanned _ _ false).2.2 (.inr plain)).1 accepted⟩

/-- A star that stands at a star takes no more than that. -/
theorem star_stops_at_star :
    segmentAccepts true ['*'] ['*', 'a'] = false ∧
      Globs (compared true ['*']) (compared true ['*', 'a']) :=
  ⟨by decide, .star ['*', 'a'] .nil⟩

end PackageDoc.Glob
