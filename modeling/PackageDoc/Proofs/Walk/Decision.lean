import PackageDoc.Generation

/-! # What is decided about a package

`Decides` lists the nine ways in which a package can be dealt with, each with what it takes.  A
decision is made exactly if one of them applies, and it carries a change exactly if its outcome
writes a file. -/
set_option autoImplicit false

namespace PackageDoc.Plan
open PackageDoc.Text

/-- The file of a package in the output tree. -/
def freshFile (plan : Plan) (output : Path) : Path :=
  output.join (Path.ofString plan.options.markerFile)

/-- What a template puts between the markers of a package. -/
def body (template package : String) : String :=
  String.ofList (Unicode.trim (Declaration.rewrite template package).toList)

/-- The marked region of a source with the body for a package. -/
def renewed (plan : Plan) (template package source : String) : Replacement :=
  plan.options.markerPattern.replace source (body template package)

inductive Decides (plan : Plan) (disk : Disk) (package : String) (output : Path) :
    Option Path → Decision → Prop
  | noMatch {marker : Option Path} (unclaimed : Rule.find? plan.rules package = none) :
      Decides plan disk package output marker ⟨none, .noMatch, none⟩
  | generateDisabled {rule : Rule} (claimed : Rule.find? plan.rules package = some rule)
      (off : plan.options.generate = false) :
      Decides plan disk package output none ⟨some rule.index, .generateDisabled, none⟩
  | generatedUpToDate {rule : Rule} {template : String}
      (claimed : Rule.find? plan.rules package = some rule) (on : plan.options.generate = true)
      (loaded : plan.templates.get disk rule.template = .ok template)
      (same : previous disk (plan.freshFile output) =
        .ok (some (bytes (Declaration.rewrite template package)))) :
      Decides plan disk package output none
        ⟨some rule.index, .generatedUpToDate (plan.freshFile output), none⟩
  | generated {rule : Rule} {template : String} {old : Option Bytes}
      (claimed : Rule.find? plan.rules package = some rule) (on : plan.options.generate = true)
      (loaded : plan.templates.get disk rule.template = .ok template)
      (found : previous disk (plan.freshFile output) = .ok old)
      (differs : old ≠ some (bytes (Declaration.rewrite template package))) :
      Decides plan disk package output none
        ⟨some rule.index, .generated (plan.freshFile output),
          some ⟨plan.freshFile output, package, old.map lossyString,
            Declaration.rewrite template package⟩⟩
  | skipExisting {rule : Rule} {file : Path}
      (claimed : Rule.find? plan.rules package = some rule) (off : plan.options.inline = false) :
      Decides plan disk package output (some file) ⟨some rule.index, .skipExisting file, none⟩
  | templateSource {rule : Rule} {file : Path}
      (claimed : Rule.find? plan.rules package = some rule) (on : plan.options.inline = true)
      (itself : plan.templates.contains disk file = true) :
      Decides plan disk package output (some file) ⟨some rule.index, .templateSource file, none⟩
  | markerNotFound {rule : Rule} {file : Path} {template source : String}
      (claimed : Rule.find? plan.rules package = some rule) (on : plan.options.inline = true)
      (other : plan.templates.contains disk file = false)
      (read : disk.readText file = .ok source)
      (loaded : plan.templates.get disk rule.template = .ok template)
      (missing : (plan.renewed template package source).matched = false) :
      Decides plan disk package output (some file) ⟨some rule.index, .markerNotFound file, none⟩
  | markerUpToDate {rule : Rule} {file : Path} {template source : String}
      (claimed : Rule.find? plan.rules package = some rule) (on : plan.options.inline = true)
      (other : plan.templates.contains disk file = false)
      (read : disk.readText file = .ok source)
      (loaded : plan.templates.get disk rule.template = .ok template)
      (found : (plan.renewed template package source).matched = true)
      (same : (plan.renewed template package source).changed = false) :
      Decides plan disk package output (some file) ⟨some rule.index, .markerUpToDate file, none⟩
  | replaced {rule : Rule} {file : Path} {template source : String}
      (claimed : Rule.find? plan.rules package = some rule) (on : plan.options.inline = true)
      (other : plan.templates.contains disk file = false)
      (read : disk.readText file = .ok source)
      (loaded : plan.templates.get disk rule.template = .ok template)
      (found : (plan.renewed template package source).matched = true)
      (differs : (plan.renewed template package source).changed = true) :
      Decides plan disk package output (some file)
        ⟨some rule.index, .replaced file,
          some ⟨file, package, some source, (plan.renewed template package source).content⟩⟩

theorem decides_of_decideNew {plan : Plan} {disk : Disk} {rule : Rule} {package : String}
    {output : Path} {decision : Decision}
    (claimed : Rule.find? plan.rules package = some rule) (on : plan.options.generate = true)
    (decided : plan.decideNew disk rule package output = .ok decision) :
    plan.Decides disk package output none decision := by
  unfold decideNew render at decided
  cases loaded : plan.templates.get disk rule.template with
  | error failure => rw [loaded] at decided; cases decided
  | ok template =>
    cases found : previous disk (plan.freshFile output) with
    | error failure =>
      unfold freshFile at found
      rw [loaded] at decided
      simp only [bind, Except.bind, pure, Except.pure, found, reduceCtorEq] at decided
    | ok old =>
      have read := found
      unfold freshFile at read
      rw [loaded] at decided
      simp only [bind, Except.bind, pure, Except.pure, read] at decided
      split at decided
      next same =>
        cases decided
        exact .generatedUpToDate claimed on loaded (by rw [found, same])
      next differs =>
        cases decided
        exact .generated claimed on loaded found differs

theorem decides_of_decideRegion {plan : Plan} {disk : Disk} {rule : Rule} {package : String}
    {output file : Path} {decision : Decision}
    (claimed : Rule.find? plan.rules package = some rule) (on : plan.options.inline = true)
    (decided : plan.decideRegion disk rule package file = .ok decision) :
    plan.Decides disk package output (some file) decision := by
  unfold decideRegion render at decided
  split at decided
  next itself => cases decided; exact .templateSource claimed on itself
  next other =>
    rw [Bool.not_eq_true] at other
    split at decided
    · cases decided
    next source read =>
      cases loaded : plan.templates.get disk rule.template with
      | error failure => rw [loaded] at decided; cases decided
      | ok template =>
        rw [loaded] at decided
        simp only [bind, Except.bind, pure, Except.pure] at decided
        split at decided
        next missing =>
          cases decided
          exact .markerNotFound claimed on other read loaded (by simpa [renewed, body] using missing)
        next found =>
          have found : (plan.renewed template package source).matched = true := by
            simpa [renewed, body] using found
          split at decided
          next same =>
            cases decided
            exact .markerUpToDate claimed on other read loaded found
              (by simpa [renewed, body] using same)
          next differs =>
            cases decided
            exact .replaced claimed on other read loaded found
              (by simpa [renewed, body] using differs)

theorem decide_of_decides {plan : Plan} {disk : Disk} {package : String} {output : Path}
    {marker : Option Path} {decision : Decision}
    (decides : plan.Decides disk package output marker decision) :
    plan.decide disk package marker output = .ok decision := by
  unfold decide
  cases decides with
  | noMatch unclaimed => rw [unclaimed]
  | generateDisabled claimed off => simp [claimed, off]
  | generatedUpToDate claimed on loaded same =>
    unfold freshFile at same
    simp [claimed, on, decideNew, render, loaded, same, freshFile, bind, Except.bind, pure,
      Except.pure]
  | generated claimed on loaded found differs =>
    unfold freshFile at found
    simp [claimed, on, decideNew, render, loaded, found, differs, freshFile, bind, Except.bind,
      pure, Except.pure]
  | skipExisting claimed off => simp [claimed, off]
  | templateSource claimed on itself =>
    simp [claimed, on, decideRegion, itself, pure, Except.pure]
  | markerNotFound claimed on other read loaded missing =>
    unfold renewed body at missing
    simp [claimed, on, decideRegion, render, other, read, loaded, missing, bind, Except.bind, pure,
      Except.pure]
  | markerUpToDate claimed on other read loaded found same =>
    unfold renewed body at found same
    simp [claimed, on, decideRegion, render, other, read, loaded, found, same, bind, Except.bind,
      pure, Except.pure]
  | replaced claimed on other read loaded found differs =>
    unfold renewed body at found differs
    simp [claimed, on, decideRegion, render, other, read, loaded, found, differs, renewed, body,
      bind, Except.bind, pure, Except.pure]

/-- A decision is made exactly if one of the nine ways applies. -/
theorem decide_eq_ok_iff (plan : Plan) (disk : Disk) (package : String) (marker : Option Path)
    (output : Path) (decision : Decision) :
    plan.decide disk package marker output = .ok decision ↔
      plan.Decides disk package output marker decision := by
  refine ⟨?_, decide_of_decides⟩
  intro decided
  unfold decide at decided
  split at decided
  next unclaimed => cases decided; exact .noMatch unclaimed
  next rule claimed =>
    split at decided
    · split at decided
      next on => exact decides_of_decideNew claimed on decided
      next off => cases decided; exact .generateDisabled claimed (by simpa using off)
    · split at decided
      next on => exact decides_of_decideRegion claimed on decided
      next off => cases decided; exact .skipExisting claimed (by simpa using off)

theorem decides_rule {plan : Plan} {disk : Disk} {package : String} {output : Path}
    {marker : Option Path} {decision : Decision}
    (decides : plan.Decides disk package output marker decision) :
    decision.rule = (Rule.find? plan.rules package).map (·.index) := by
  cases decides with
  | noMatch unclaimed => rw [unclaimed]; rfl
  | generateDisabled claimed => rw [claimed]; rfl
  | generatedUpToDate claimed => rw [claimed]; rfl
  | generated claimed => rw [claimed]; rfl
  | skipExisting claimed => rw [claimed]; rfl
  | templateSource claimed => rw [claimed]; rfl
  | markerNotFound claimed => rw [claimed]; rfl
  | markerUpToDate claimed => rw [claimed]; rfl
  | replaced claimed => rw [claimed]; rfl

/-! ## What is read -/

/-- A later disk that reads as the earlier one wherever a decision looks. -/
structure ReadsAs (plan : Plan) (before after : Disk) (marker : Option Path) (output : Path) :
    Prop where
  keys : ∀ rule ∈ plan.rules, after.key rule.template = before.key rule.template
  marked : ∀ file, marker = some file →
    after.key file = before.key file ∧ after.readText file = before.readText file
  fresh : plan.options.generate = true → marker = none →
    previous after (plan.freshFile output) = previous before (plan.freshFile output)

theorem decide_congr {plan : Plan} {before after : Disk} {marker : Option Path} {output : Path}
    (reads : plan.ReadsAs before after marker output) (package : String) :
    plan.decide after package marker output = plan.decide before package marker output := by
  unfold decide
  cases claimed : Rule.find? plan.rules package with
  | none => rfl
  | some rule =>
    have rendered : plan.render after rule package = plan.render before rule package := by
      unfold render TemplateStore.get
      rw [reads.keys rule (List.mem_of_find?_eq_some claimed)]
    cases marker with
    | none =>
      dsimp only
      split
      next on =>
        have fresh := reads.fresh on rfl
        unfold freshFile at fresh
        unfold decideNew
        dsimp only
        rw [rendered, fresh]
      next => rfl
    | some file =>
      obtain ⟨key, text⟩ := reads.marked file rfl
      dsimp only
      split
      · unfold decideRegion TemplateStore.contains
        rw [rendered, key, text]
      · rfl

/-! ## Changes -/

/-- A visit that wrote a file, and the change that it made. -/
structure Announces (visit : Visit) (change : Change) : Prop where
  writes : visit.outcome.isWrite = true
  file : visit.outcome.file? = some change.file
  package : visit.package = change.package

theorem decides_change {plan : Plan} {disk : Disk} {package : String} {output : Path}
    {marker : Option Path} {decision : Decision}
    (decides : plan.Decides disk package output marker decision) (directory : Path) :
    decision.change = none ∧ decision.outcome.isWrite = false ∨
      ∃ change, decision.change = some change ∧
        Announces ⟨directory, package, decision.rule, decision.outcome⟩ change := by
  cases decides with
  | generated => exact Or.inr ⟨_, rfl, rfl, rfl, rfl⟩
  | replaced => exact Or.inr ⟨_, rfl, rfl, rfl, rfl⟩
  | noMatch => exact Or.inl ⟨rfl, rfl⟩
  | generateDisabled => exact Or.inl ⟨rfl, rfl⟩
  | generatedUpToDate => exact Or.inl ⟨rfl, rfl⟩
  | skipExisting => exact Or.inl ⟨rfl, rfl⟩
  | templateSource => exact Or.inl ⟨rfl, rfl⟩
  | markerNotFound => exact Or.inl ⟨rfl, rfl⟩
  | markerUpToDate => exact Or.inl ⟨rfl, rfl⟩

/-- The change that generates a package's file in the output tree. -/
structure NewFile (plan : Plan) (disk : Disk) (package : String) (output : Path)
    (change : Change) : Prop where
  on : plan.options.generate = true
  file : change.file = plan.freshFile output
  content : ∃ rule template, Rule.find? plan.rules package = some rule ∧
    plan.templates.get disk rule.template = .ok template ∧
    change.content = Declaration.rewrite template package

/-- The change that replaces the region of a package's marker file. -/
structure NewRegion (plan : Plan) (disk : Disk) (package : String) (change : Change) : Prop where
  on : plan.options.inline = true
  other : plan.templates.contains disk change.file = false
  content : ∃ rule template source, Rule.find? plan.rules package = some rule ∧
    plan.templates.get disk rule.template = .ok template ∧
    (plan.renewed template package source).matched = true ∧
    change.content = (plan.renewed template package source).content

theorem decides_change_cases {plan : Plan} {disk : Disk} {package : String} {output : Path}
    {marker : Option Path} {decision : Decision}
    (decides : plan.Decides disk package output marker decision) {change : Change}
    (changes : decision.change = some change) :
    marker = none ∧ decision.outcome = .generated change.file ∧
        plan.NewFile disk package output change ∨
      marker = some change.file ∧ decision.outcome = .replaced change.file ∧
        plan.NewRegion disk package change := by
  cases decides with
  | generated claimed on loaded _ _ =>
    cases changes
    exact Or.inl ⟨rfl, rfl, on, rfl, _, _, claimed, loaded, rfl⟩
  | replaced claimed on other _ loaded found _ =>
    cases changes
    exact Or.inr ⟨rfl, rfl, on, other, _, _, _, claimed, loaded, found, rfl⟩
  | noMatch => cases changes
  | generateDisabled => cases changes
  | generatedUpToDate => cases changes
  | skipExisting => cases changes
  | templateSource => cases changes
  | markerNotFound => cases changes
  | markerUpToDate => cases changes

end PackageDoc.Plan
