import PackageDoc.Console.Commands
import PackageDoc.Proofs.Run.Basic
import PackageDoc.Proofs.Steps

/-! # Previews

The commands that only tell what a run would do leave the disk as it is, whatever comes of them.
That a switch stands among the arguments is enough to know that it was read: a word that no level
takes in is refused, and so is a switch in the place of a value. -/
set_option autoImplicit false

namespace PackageDoc.Console
open PackageDoc.Text

/-! ## Commands -/

/-- Whether a command only tells what would be done. -/
def Command.isPreview : Command → Bool
  | .init => false
  | .generate dryRun _ _ _ => dryRun
  | .check _ _ => true
  | .list => true

namespace Session

theorem withOptions_disk (session : Session) (disk : Disk) {act : Options → Response × Disk}
    (leaves : ∀ options, (act options).2 = disk) : (session.withOptions disk act).2 = disk := by
  unfold withOptions
  split
  · rfl
  · rfl
  · split
    · rfl
    · exact leaves _

theorem withReport_dry_disk (session : Session) {options : Options} (dry : options.dryRun = true)
    (disk : Disk) (tell : Report → Response) : (session.withReport options disk tell).2 = disk := by
  have left := generate_dry_disk dry disk
  unfold withReport
  split
  next ran => rw [ran] at left; exact left
  next ran => rw [ran] at left; exact left

theorem perform_preview_disk (session : Session) (disk : Disk) {command : Command}
    (preview : command.isPreview = true) : (session.perform disk command).2 = disk := by
  cases command with
  | init => cases preview
  | generate dryRun generate inline format =>
    exact session.withOptions_disk disk fun _ => session.withReport_dry_disk preview disk _
  | check showDiff format =>
    exact session.withOptions_disk disk fun _ => session.withReport_dry_disk rfl disk _
  | list =>
    refine session.withOptions_disk disk fun options => ?_
    split
    · rfl
    · exact session.withReport_dry_disk rfl disk _

end Session

/-! ## Switches that were read -/

/-- What reading adds: switches that are known, and none is lost. -/
structure Given.Reads (vocabulary : Vocabulary) (before after : Given) : Prop where
  kept : ∀ switch ∈ before.switches, switch ∈ after.switches
  known : ∀ switch ∈ after.switches, switch ∈ before.switches ∨ switch ∈ vocabulary.switches

namespace Given.Reads
variable {vocabulary : Vocabulary} {given middle after : Given}

theorem refl (given : Given) : Reads vocabulary given given :=
  ⟨fun _ member => member, fun _ member => Or.inl member⟩

theorem trans (first : Reads vocabulary given middle) (second : Reads vocabulary middle after) :
    Reads vocabulary given after := by
  refine ⟨fun switch member => second.kept switch (first.kept switch member), ?_⟩
  intro switch member
  rcases second.known switch member with earlier | known
  · exact first.known switch earlier
  · exact Or.inr known

theorem take {switch : Switch} (known : switch ∈ vocabulary.switches)
    (taken : given.take switch = .ok after) :
    Reads vocabulary given after ∧ switch ∈ after.switches := by
  have grown : after.switches = switch :: given.switches := by
    unfold Given.take at taken
    split at taken
    · cases taken
    · cases taken
    · split at taken
      · cases taken
      · cases taken
        rfl
  refine ⟨⟨?_, ?_⟩, ?_⟩
  · intro other member
    rw [grown]
    exact List.mem_cons_of_mem _ member
  · intro other member
    rw [grown] at member
    rcases List.mem_cons.1 member with rfl | earlier
    · exact Or.inr known
    · exact Or.inl earlier
  · rw [grown]
    exact List.mem_cons_self

theorem set {choice : Choice} {value : String} (taken : given.set choice value = .ok after) :
    Reads vocabulary given after := by
  have same : after.switches = given.switches := by
    unfold Given.set at taken
    split at taken
    · split at taken
      · cases taken
      · cases taken
        rfl
    · split at taken
      · cases taken
        rfl
      · cases taken
  exact ⟨fun switch member => by rw [same]; exact member,
    fun switch member => Or.inl (by rw [← same]; exact member)⟩

end Given.Reads

namespace Vocabulary
variable {vocabulary : Vocabulary} {given after : Given} {waiting : Option Choice}

theorem reads_of_set {choice : Choice} {value : String}
    (read : (do return (← given.set choice value, none) : Except Halt (Given × Option Choice)) =
      .ok (after, waiting)) : Given.Reads vocabulary given after := by
  obtain ⟨middle, taken, same⟩ := bind_eq_ok read
  cases same
  exact .set taken

theorem readLetters_reads : ∀ (letters : List Char) {given : Given},
    vocabulary.readLetters letters given = .ok (after, waiting) →
      Given.Reads vocabulary given after := by
  intro letters
  induction letters with
  | nil => intro given read; cases read; exact .refl _
  | cons letter rest ih =>
    intro given read
    rw [readLetters] at read
    split at read
    next switch found =>
      obtain ⟨middle, taken, read⟩ := bind_eq_ok read
      exact (Given.Reads.take (List.mem_of_find?_eq_some found) taken).1.trans (ih read)
    next =>
      split at read
      · cases read
      · split at read
        · cases read
          exact .refl _
        · exact reads_of_set read
        · exact reads_of_set read

theorem readName_reads {text : List Char}
    (read : vocabulary.readName text given = .ok (after, waiting)) :
    Given.Reads vocabulary given after := by
  unfold readName at read
  dsimp only at read
  split at read
  next switch found =>
    split at read
    next =>
      obtain ⟨middle, taken, same⟩ := bind_eq_ok read
      cases same
      exact (Given.Reads.take (List.mem_of_find?_eq_some found) taken).1
    next => cases read
  next =>
    split at read
    · cases read
    · cases read
      exact .refl _
    · exact reads_of_set read

theorem readOption_reads {c : Char} {letters : List Char}
    (read : vocabulary.readOption c letters given = .ok (after, waiting)) :
    Given.Reads vocabulary given after := by
  unfold readOption at read
  split at read
  · exact readName_reads read
  · exact readLetters_reads _ read

theorem read_reads {arguments left : List String}
    (read : vocabulary.read arguments given = .ok (after, left)) :
    Given.Reads vocabulary given after := by
  fun_induction vocabulary.read arguments given with
  | case1 => cases read; exact .refl _
  | case2 => cases read; exact .refl _
  | case3 => cases read
  | case4 => cases read
  | case5 argument rest given c letters _ _ middle option ih =>
    exact (readOption_reads option).trans (ih read)
  | case6 => cases read
  | case7 => cases read
  | case8 argument given c letters _ _ middle choice option value rest _ next taken ih =>
    exact (readOption_reads option).trans ((Given.Reads.set taken).trans (ih read))
  | case9 => cases read
  | case10 => cases read; exact .refl _

end Vocabulary

/-! ## Switches by name -/

namespace Switch

/-- A switch as it is written with its name. -/
def written (switch : Switch) : String := "--" ++ switch.name

theorem toList_written (switch : Switch) :
    switch.written.toList = '-' :: '-' :: switch.name.toList := by
  cases switch <;> rfl

theorem name_injective {first second : Switch} (same : first.name = second.name) :
    first = second := by
  revert same
  cases first <;> cases second <;> decide

theorem name_ne_choice (switch : Switch) (choice : Choice) : choice.name ≠ switch.name := by
  cases choice <;> cases switch <;> decide

/-- No name has an equals sign or is empty. -/
theorem name_whole (switch : Switch) :
    switch.name.toList.takeWhile (· ≠ '=') = switch.name.toList ∧
      switch.name.toList.dropWhile (· ≠ '=') = [] ∧ switch.name.toList ≠ [] := by
  cases switch <;> decide

theorem isValue_written (switch : Switch) : Vocabulary.isValue switch.written = false := by
  cases switch <;> decide

end Switch

namespace Vocabulary
variable {vocabulary : Vocabulary} {given after : Given} {waiting : Option Choice} {switch : Switch}

/-- A switch whose name is read is given, and waits for no value. -/
theorem mem_of_readName
    (read : vocabulary.readName switch.name.toList given = .ok (after, waiting)) :
    switch ∈ after.switches ∧ waiting = none := by
  obtain ⟨name, value, _⟩ := switch.name_whole
  unfold readName at read
  rw [name, value, String.ofList_toList] at read
  dsimp only at read
  split at read
  next found held =>
    have same : found = switch := Switch.name_injective (by simpa using List.find?_some held)
    obtain ⟨middle, taken, last⟩ := bind_eq_ok read
    cases last
    exact ⟨same ▸ (Given.Reads.take (List.mem_of_find?_eq_some held) taken).2, rfl⟩
  next =>
    cases held : vocabulary.choices.find? (·.name = switch.name) with
    | none => rw [held] at read; cases read
    | some choice =>
      exact absurd (by simpa using List.find?_some held) (switch.name_ne_choice choice)

theorem mem_of_readOption {c : Char} {letters : List Char}
    (form : switch.written.toList = '-' :: c :: letters)
    (read : vocabulary.readOption c letters given = .ok (after, waiting)) :
    switch ∈ after.switches ∧ waiting = none := by
  rw [Switch.toList_written] at form
  cases form
  unfold readOption at read
  rw [if_pos rfl] at read
  exact mem_of_readName read

/-- A switch among the arguments is given on this level, or is left for the next one. -/
theorem mem_of_read {arguments left : List String}
    (read : vocabulary.read arguments given = .ok (after, left))
    (named : switch.written ∈ arguments) : switch ∈ after.switches ∨ switch.written ∈ left := by
  fun_induction vocabulary.read arguments given with
  | case1 => cases named
  | case2 argument rest given dashes alone =>
    rw [List.isEmpty_iff.1 alone, List.mem_singleton] at named
    rw [← named, Switch.toList_written] at dashes
    exact absurd (by simpa using dashes) switch.name_whole.2.2
  | case3 => cases read
  | case4 => cases read
  | case5 argument rest given c letters _ form middle option ih =>
    rcases List.mem_cons.1 named with same | later
    · exact Or.inl ((read_reads read).kept switch (mem_of_readOption (same ▸ form) option).1)
    · exact ih read later
  | case6 => cases read
  | case7 => cases read
  | case8 argument given c letters _ form middle choice option value rest isValue next taken ih =>
    rcases List.mem_cons.1 named with same | later
    · cases (mem_of_readOption (same ▸ form) option).2
    · rcases List.mem_cons.1 later with same | later
      · rw [← same, Switch.isValue_written] at isValue
        cases isValue
      · exact ih read later
  | case9 => cases read
  | case10 =>
    cases read
    exact Or.inr named

end Vocabulary

/-! ## Arguments -/

/-- The first word among the arguments that belongs to no option. -/
def commandWord? (arguments : List String) : Option String :=
  match Vocabulary.top.read arguments {} with
  | .ok (_, word :: _) => some word
  | _ => none

theorem form_of_find? {word : String} {form : CommandForm}
    (found : commandForms.find? (·.name = word) = some form) :
    form ∈ commandForms ∧ form.name = word :=
  ⟨List.mem_of_find?_eq_some found, by simpa using List.find?_some found⟩

/-- How arguments ask for a command. -/
theorem request_eq_run {arguments : List String} {setting : Setting} {command : Command}
    (parsed : Request.parse? arguments = some (.run setting (some command))) :
    ∃ front word rest form behind, Vocabulary.top.read arguments {} = .ok (front, word :: rest) ∧
      form ∈ commandForms ∧ form.name = word ∧ form.vocabulary.read rest {} = .ok (behind, []) ∧
      command = form.command behind := by
  unfold Request.parse? at parsed
  dsimp only at parsed
  split at parsed
  next request success =>
    cases parsed
    obtain ⟨⟨front, words⟩, first, last⟩ := bind_eq_ok success
    unfold readCommand at last
    dsimp only at last
    split at last
    · cases last
    next word rest =>
      split at last
      · cases last
      · split at last
        · cases last
        next form found =>
          obtain ⟨member, name⟩ := form_of_find? found
          obtain ⟨⟨behind, others⟩, second, same⟩ := bind_eq_ok last
          cases others with
          | nil => cases same; exact ⟨front, word, rest, form, behind, first, member, name, second, rfl⟩
          | cons other others => cases same
  all_goals cases parsed

/-- The front level does not know the switch, so it is read behind the command if it is there. -/
theorem dryRun_of_written {arguments rest : List String} {front behind : Given} {word : String}
    {form : CommandForm} (member : form ∈ commandForms) (name : form.name = word)
    (first : Vocabulary.top.read arguments {} = .ok (front, word :: rest))
    (second : form.vocabulary.read rest {} = .ok (behind, []))
    (named : Switch.dryRun.written ∈ arguments) :
    Switch.dryRun ∈ behind.switches ∧ Switch.dryRun ∈ form.vocabulary.switches := by
  have behindWord : Switch.dryRun.written ∈ rest := by
    rcases Vocabulary.mem_of_read first named with given | left
    · rcases (Vocabulary.read_reads first).known _ given with none | known
      · cases none
      · exact absurd known (by decide)
    · rcases List.mem_cons.1 left with same | inRest
      · have noCommand : ∀ form ∈ commandForms, form.name ≠ Switch.dryRun.written := by decide
        exact absurd (name.trans same.symm) (noCommand form member)
      · exact inRest
  have given : Switch.dryRun ∈ behind.switches := by
    rcases Vocabulary.mem_of_read second behindWord with given | none
    · exact given
    · cases none
  refine ⟨given, ?_⟩
  rcases (Vocabulary.read_reads second).known _ given with none | known
  · cases none
  · exact known

/-- Whether arguments ask for a preview, by the command or by the switch. -/
def AsksPreview (arguments : List String) : Prop :=
  commandWord? arguments = some "check" ∨ commandWord? arguments = some "list" ∨
    Switch.dryRun.written ∈ arguments

instance (arguments : List String) : Decidable (AsksPreview arguments) :=
  inferInstanceAs (Decidable (_ ∨ _ ∨ _))

theorem isPreview_of_asks {arguments : List String} {setting : Setting} {command : Command}
    (parsed : Request.parse? arguments = some (.run setting (some command)))
    (asks : AsksPreview arguments) : command.isPreview = true := by
  obtain ⟨front, word, rest, form, behind, first, member, name, second, rfl⟩ :=
    request_eq_run parsed
  have asked : form.name = "check" ∨ form.name = "list" ∨
      Switch.dryRun ∈ behind.switches ∧ Switch.dryRun ∈ form.vocabulary.switches := by
    unfold AsksPreview commandWord? at asks
    rw [first, ← name] at asks
    refine asks.imp Option.some.inj (Or.imp Option.some.inj fun named => ?_)
    exact dryRun_of_written member name first second named
  clear first second name asks
  have forms : form = commandForms[0] ∨ form = commandForms[1] ∨ form = commandForms[2] ∨
      form = commandForms[3] := by simpa [commandForms] using member
  rcases forms with rfl | rfl | rfl | rfl
  · rcases asked with name | name | ⟨_, known⟩
    · exact absurd name (by decide)
    · exact absurd name (by decide)
    · exact absurd known (by decide)
  · simpa [commandForms, Command.isPreview, Given.has, Vocabulary.common] using asked
  · rfl
  · rfl

/-- Previews leave the disk as it is. -/
theorem preview_leaves_disk (surroundings : Surroundings) (arguments : List String) (disk : Disk)
    (asks : AsksPreview arguments) : (respond surroundings arguments disk).2 = disk := by
  unfold respond
  split
  · rfl
  · rfl
  · rfl
  · rfl
  next setting command parsed =>
    exact Session.perform_preview_disk _ disk (isPreview_of_asks parsed asks)

namespace Sample

def settings : String := String.join
  ["source_directory = 'src'\n", "output_directory = 'out'\n", "[[packages]]\n",
    "pattern = '**'\n", "template = 't'\n"]

/-- A project with one package, which has no documentation file yet. -/
def project : Disk where
  entries := [([bytes "pkginfo.toml"], .file (bytes settings)), ([bytes "src"], .directory),
    ([bytes "src", bytes "A.java"], .file []), ([bytes "t"], .file (bytes "package q;"))]
  current := []
  ordered := by unfold Ordered; decide

def surroundings : Surroundings := ⟨.ofString "/", true, none⟩

end Sample

theorem preview_leaves_disk_sample :
    (respond Sample.surroundings ["check", "--diff"] Sample.project).2 = Sample.project ∧
      (respond Sample.surroundings ["list"] Sample.project).2 = Sample.project ∧
      (respond Sample.surroundings ["generate", "--no-inline", "--dry-run"] Sample.project).2 =
        Sample.project ∧
      (respond Sample.surroundings ["generate", "--no-inline"] Sample.project).2 ≠
        Sample.project := by
  refine ⟨preview_leaves_disk _ _ _ (by decide), preview_leaves_disk _ _ _ (by decide),
    preview_leaves_disk _ _ _ (by decide), ?_⟩
  intro same
  have entries := congrArg (·.entries.length) same
  revert entries
  decide +kernel

end PackageDoc.Console
