import Mathlib.Data.List.Forall2
import PackageDoc.Proofs.Glob.Wildcard
import PackageDoc.Proofs.Text.Pieces

/-! # What a glob accepts

A glob accepts a package name without stars exactly if the segments of the name can be cut into
blocks, one for each segment of the glob: any block for `**`, one segment for every other.  Dropping
a repeated `**`, or a final dot behind one, changes nothing about that. -/
set_option autoImplicit false

namespace PackageDoc.Glob
open PackageDoc.Text

/-- The non-empty segments between the dots of a text. -/
def dotted (text : List Char) : List Segment :=
  (pieces separator text).filter fun segment => !segment.isEmpty

/-- A block of the segments of a name that a segment of a glob stands for. -/
inductive Covers (caseSensitive : Bool) : Segment → List Segment → Prop
  | anyDepth (block : List Segment) : Covers caseSensitive anyDepth block
  | single {segment name : Segment} (ordinary : segment ≠ anyDepth)
      (globs : Globs (compared caseSensitive segment) (compared caseSensitive name)) :
      Covers caseSensitive segment [name]

def Cuts (caseSensitive : Bool) (glob names : List Segment) : Prop :=
  ∃ blocks, List.Forall₂ (Covers caseSensitive) glob blocks ∧ blocks.flatten = names

namespace Cuts
variable {caseSensitive : Bool} {segment : Segment} {glob names : List Segment}

theorem nil_iff : Cuts caseSensitive [] names ↔ names = [] := by
  unfold Cuts
  simp [eq_comm]

theorem cons_iff : Cuts caseSensitive (segment :: glob) names ↔
    ∃ block rest, names = block ++ rest ∧ Covers caseSensitive segment block ∧
      Cuts caseSensitive glob rest := by
  constructor
  · rintro ⟨_, covered, rfl⟩
    cases covered with
    | cons covers others => exact ⟨_, _, List.flatten_cons, covers, _, others, rfl⟩
  · rintro ⟨block, _, rfl, covers, blocks, others, rfl⟩
    exact ⟨block :: blocks, .cons covers others, List.flatten_cons⟩

theorem append_iff {front behind : List Segment} : Cuts caseSensitive (front ++ behind) names ↔
    ∃ first rest, names = first ++ rest ∧ Cuts caseSensitive front first ∧
      Cuts caseSensitive behind rest := by
  induction front generalizing names with
  | nil => simp [nil_iff]
  | cons segment front ih =>
    simp only [List.cons_append, cons_iff, ih]
    constructor
    · rintro ⟨block, _, rfl, covers, first, rest, rfl, cuts, others⟩
      exact ⟨block ++ first, rest, (List.append_assoc _ _ _).symm, ⟨block, first, rfl, covers, cuts⟩,
        others⟩
    · rintro ⟨_, rest, rfl, ⟨block, first, rfl, covers, cuts⟩, others⟩
      exact ⟨block, first ++ rest, List.append_assoc _ _ _, covers, first, rest, rfl, cuts, others⟩

theorem anyDepth_iff : Cuts caseSensitive (anyDepth :: glob) names ↔
    ∃ rest, rest <:+ names ∧ Cuts caseSensitive glob rest := by
  rw [cons_iff]
  constructor
  · rintro ⟨block, rest, rfl, _, cuts⟩
    exact ⟨rest, List.suffix_append _ _, cuts⟩
  · rintro ⟨rest, ⟨block, rfl⟩, cuts⟩
    exact ⟨block, rest, rfl, .anyDepth block, cuts⟩

theorem ordinary_iff (ordinary : segment ≠ anyDepth) : Cuts caseSensitive (segment :: glob) names ↔
    ∃ name rest, names = name :: rest ∧
      Globs (compared caseSensitive segment) (compared caseSensitive name) ∧
      Cuts caseSensitive glob rest := by
  rw [cons_iff]
  constructor
  · rintro ⟨block, rest, rfl, covers, cuts⟩
    cases covers with
    | anyDepth => exact absurd rfl ordinary
    | single _ globs => exact ⟨_, rest, rfl, globs, cuts⟩
  · rintro ⟨name, rest, rfl, globs, cuts⟩
    exact ⟨[name], rest, rfl, .single ordinary globs, cuts⟩

theorem anyDepth_anyDepth_iff : Cuts caseSensitive (anyDepth :: anyDepth :: glob) names ↔
    Cuts caseSensitive (anyDepth :: glob) names := by
  rw [anyDepth_iff, anyDepth_iff]
  constructor
  · rintro ⟨middle, suffix, cuts⟩
    obtain ⟨rest, shorter, cuts⟩ := anyDepth_iff.1 cuts
    exact ⟨rest, shorter.trans suffix, cuts⟩
  · rintro ⟨rest, suffix, cuts⟩
    exact ⟨rest, suffix, anyDepth_iff.2 ⟨rest, List.suffix_rfl, cuts⟩⟩

theorem collapse_iff : Cuts caseSensitive (collapse glob) names ↔ Cuts caseSensitive glob names := by
  induction glob generalizing names with
  | nil => rfl
  | cons segment glob ih =>
    have onward : Cuts caseSensitive (segment :: collapse glob) names ↔
        Cuts caseSensitive (segment :: glob) names := by
      simp only [cons_iff, ih]
    rw [collapse, ← onward]
    split
    next none => rw [none]
    next next others found =>
      rw [found]
      split
      next both =>
        obtain ⟨rfl, rfl⟩ := both
        exact anyDepth_anyDepth_iff.symm
      next => rfl

theorem append_anyDepth_iff (last : glob.getLast? = some anyDepth) :
    Cuts caseSensitive (glob ++ [anyDepth]) names ↔ Cuts caseSensitive glob names := by
  obtain ⟨front, rfl⟩ := List.getLast?_eq_some_iff.1 last
  rw [List.append_assoc, append_iff, append_iff]
  simp only [List.singleton_append, anyDepth_anyDepth_iff]

end Cuts

/-! ## The segments that are compared -/

/-- A glob with its final dot written out. -/
def written (glob : List Char) : List Segment :=
  dotted glob ++ if glob.getLast? = some separator then [anyDepth] else []

theorem cuts_globSegments_iff {caseSensitive : Bool} {glob : List Char} {names : List Segment} :
    Cuts caseSensitive (globSegments glob) names ↔ Cuts caseSensitive (written glob) names := by
  unfold globSegments written segments dotted
  generalize (pieces separator glob).filter (fun segment => !segment.isEmpty) = found
  have collapsed : ∀ behind, Cuts caseSensitive (collapse found ++ behind) names ↔
      Cuts caseSensitive (found ++ behind) names := by
    intro behind
    simp only [Cuts.append_iff, Cuts.collapse_iff]
  dsimp only
  rw [← collapsed]
  -- A `**` that stands for a final dot is left out if there is one in front of it.
  by_cases dot : glob.getLast? = some separator
  · by_cases deep : (collapse found).getLast? = some anyDepth
    · rw [if_neg (fun both => both.2 deep), if_pos dot, Cuts.append_anyDepth_iff deep]
    · rw [if_pos ⟨dot, deep⟩, if_pos dot]
  · rw [if_neg (fun both => dot both.1), if_neg dot, List.append_nil]

theorem mem_of_mem_dotted {text : List Char} {segment : Segment} (member : segment ∈ dotted text)
    {c : Char} (inside : c ∈ segment) : c ∈ text :=
  mem_of_mem_pieces separator (List.mem_filter.1 member).1 inside

theorem star_notMem_dotted {text : List Char} (plain : '*' ∉ text) :
    ∀ segment ∈ dotted text, '*' ∉ segment := by
  intro segment member inside
  exact plain (mem_of_mem_dotted member inside)

theorem collapse_of_plain : ∀ {names : List Segment}, (∀ name ∈ names, '*' ∉ name) →
    collapse names = names := by
  intro names
  induction names with
  | nil => intro _; rfl
  | cons name names ih =>
    intro plain
    have ordinary : name ≠ anyDepth := by
      rintro rfl
      exact plain anyDepth List.mem_cons_self (by decide)
    rw [collapse, ih fun name member => plain name (List.mem_cons_of_mem _ member)]
    split
    · rfl
    · rw [if_neg fun both => ordinary both.1]

/-! ## Accepting -/

section Steps
variable {caseSensitive : Bool} {segment : Segment} {glob names : List Segment}

theorem acceptsSegments_anyDepth_iff :
    acceptsSegments caseSensitive (anyDepth :: glob) names = true ↔
      ∃ rest, rest <:+ names ∧ acceptsSegments caseSensitive glob rest = true := by
  conv => lhs; unfold acceptsSegments
  rw [if_pos rfl, List.any_eq_true]
  constructor
  · rintro ⟨skipped, _, accepted⟩
    exact ⟨_, List.drop_suffix skipped names, accepted⟩
  · rintro ⟨rest, ⟨block, rfl⟩, accepted⟩
    refine ⟨block.length, List.mem_range.2 ?_, ?_⟩
    · rw [List.length_append]
      omega
    · rwa [List.drop_left]

theorem acceptsSegments_ordinary_iff (ordinary : segment ≠ anyDepth) :
    acceptsSegments caseSensitive (segment :: glob) names = true ↔
      ∃ name rest, names = name :: rest ∧ segmentAccepts caseSensitive segment name = true ∧
        acceptsSegments caseSensitive glob rest = true := by
  conv => lhs; unfold acceptsSegments
  rw [if_neg ordinary]
  cases names with
  | nil => exact iff_of_false Bool.false_ne_true nofun
  | cons name names =>
    dsimp only
    rw [Bool.and_eq_true]
    constructor
    · rintro ⟨here, later⟩
      exact ⟨name, names, rfl, here, later⟩
    · rintro ⟨_, _, whole, here, later⟩
      cases whole
      exact ⟨here, later⟩

end Steps

theorem acceptsSegments_iff_cuts {caseSensitive : Bool} : ∀ {glob names : List Segment},
    (∀ name ∈ names, '*' ∉ name) →
      (acceptsSegments caseSensitive glob names = true ↔ Cuts caseSensitive glob names) := by
  intro glob
  induction glob with
  | nil =>
    intro names _
    rw [acceptsSegments, List.isEmpty_iff, Cuts.nil_iff]
  | cons segment glob ih =>
    intro names plain
    by_cases deep : segment = anyDepth
    · subst deep
      rw [acceptsSegments_anyDepth_iff, Cuts.anyDepth_iff]
      refine exists_congr fun rest => and_congr_right fun suffix => ?_
      exact ih fun name member => plain name (suffix.mem member)
    · rw [acceptsSegments_ordinary_iff deep, Cuts.ordinary_iff deep]
      refine exists_congr fun name => exists_congr fun rest => and_congr_right ?_
      rintro rfl
      have free := star_notMem_compared caseSensitive (plain name List.mem_cons_self)
      rw [segmentAccepts, takes_iff_globs (.inr free),
        ih fun other member => plain other (List.mem_cons_of_mem _ member)]

/-- A glob accepts a name without stars exactly if the name can be cut as the glob says. -/
theorem accepts_iff_blocks (glob package : String) (caseSensitive : Bool)
    (plain : '*' ∉ package.toList) :
    accepts glob package caseSensitive = true ↔
      ∃ blocks, List.Forall₂ (Covers caseSensitive)
          (dotted glob.toList ++ if glob.toList.getLast? = some '.' then [anyDepth] else []) blocks ∧
        blocks.flatten = dotted package.toList := by
  have names := star_notMem_dotted plain
  have same : segments package.toList = dotted package.toList := collapse_of_plain names
  unfold accepts
  rw [same, acceptsSegments_iff_cuts names, cuts_globSegments_iff]
  rfl

theorem accepts_iff_blocks_sample :
    '*' ∉ "com..example.internal.Model.v2".toList ∧
      accepts "COM.**.*od*l." "com..example.internal.Model.v2" false = true ∧
      ∃ blocks, List.Forall₂ (Covers false)
          (dotted "COM.**.*od*l.".toList ++
            if "COM.**.*od*l.".toList.getLast? = some '.' then [anyDepth] else []) blocks ∧
        blocks.flatten = dotted "com..example.internal.Model.v2".toList :=
  have plain : '*' ∉ "com..example.internal.Model.v2".toList := by decide
  have accepted : accepts "COM.**.*od*l." "com..example.internal.Model.v2" false = true := by
    decide +kernel
  ⟨plain, accepted, (accepts_iff_blocks _ _ false plain).1 accepted⟩

end PackageDoc.Glob
