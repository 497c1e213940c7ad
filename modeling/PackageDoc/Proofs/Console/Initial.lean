import PackageDoc.Console.Initial
import PackageDoc.Proofs.Disk.Retaining

/-! # Projects that are set up

The command `init` asks once what is there, and then writes where nothing was.  A link can make the
settings and the template one file, but that file is new.  After a success both are found, so that
the command has nothing left to do. -/
set_option autoImplicit false

namespace PackageDoc
open PackageDoc.Text

namespace Console

/-! ## Settings at the root -/

/-- A project with settings has a directory as its root. -/
theorem opens_of_candidate {disk : Disk} {root path : Path}
    (located : Settings.locate disk root = some path) : ∃ directory, disk.Opens root directory := by
  obtain ⟨_, _, there, _⟩ := Disk.locate_of_isFile (List.find?_some located)
  have reached := Disk.locate_eq_ok_iff.1 there
  obtain ⟨name, candidate, rfl⟩ := List.mem_map.1 (List.mem_of_find?_eq_some located)
  rcases List.mem_cons.1 candidate with rfl | candidate
  · have proper : Path.IsName (bytes "pkginfo.toml") := by decide
    exact Disk.opens_of_reach proper reached
  rcases List.mem_cons.1 candidate with rfl | candidate
  · have proper : Path.IsName (bytes ".pkginfo.toml") := by decide
    exact Disk.opens_of_reach proper reached
  · obtain rfl := List.mem_singleton.1 candidate
    have nested : Path.ofString ".config/pkginfo.toml" =
        ⟨bytes ".config" ++ Path.slash :: bytes "pkginfo.toml"⟩ := by decide
    rw [nested, Path.join_child root (by decide) (by decide)] at reached
    obtain ⟨_, opens⟩ := Disk.opens_of_reach (by decide) reached
    exact opens.parent (by decide)

theorem located_of_keeps {before after : Disk} (keeps : Disk.Keeps before after) {root : Path}
    (located : (Settings.locate before root).isSome = true) :
    (Settings.locate after root).isSome = true := by
  unfold Settings.locate at located ⊢
  rw [List.find?_isSome] at located ⊢
  obtain ⟨path, member, file⟩ := located
  exact ⟨path, member, Disk.isFile_of_keeps keeps file⟩

namespace Session
variable {session : Session} {disk middle : Disk} {root : Location}

/-- What the first half of the command leaves: the settings are there, nothing else has changed, and
paths lead where they led or to something new. -/
structure Started (session : Session) (disk middle : Disk) (root : Location) : Prop where
  tree : middle.IsTree
  retains : Disk.Retains disk middle
  found : ∀ path location, middle.locate path = .ok location →
    disk.locate path = .ok location ∨ disk.node? location = none
  opens : middle.Opens session.root root
  located : (Settings.locate middle session.root).isSome = true

theorem started_of_located (tree : disk.IsTree)
    (located : (Settings.locate disk session.root).isSome = true) :
    ∃ root, session.Started disk disk root := by
  obtain ⟨path, found⟩ := Option.isSome_iff_exists.1 located
  obtain ⟨root, opens⟩ := opens_of_candidate found
  exact ⟨root, tree, .refl disk, fun _ _ => Or.inl, opens, located⟩

theorem started_of_written (tree : disk.IsTree)
    (missing : (Settings.locate disk session.root).isSome = false) {content : Bytes}
    (written : disk.write session.settingsPath content = (middle, none)) :
    ∃ root, session.Started disk middle root := by
  obtain ⟨place, target, there, rfl⟩ := Disk.locate_of_write tree written
  have writable := Disk.target_writable tree target
  have candidate : session.settingsPath ∈
      Settings.candidates.map fun name => session.root.join (Path.ofString name) :=
    List.mem_map.2 ⟨settingsName, List.mem_cons_self, rfl⟩
  have free : disk.node? place = none := by
    rcases writable.open_ with free | ⟨old, file⟩
    · exact free
    · have before := (Disk.free_or_locate_of_target tree target).resolve_left (by simp [file])
      have isFile := Disk.isFile_iff.2 ⟨old, Disk.find?_eq_some_iff.2 ⟨place, before, file⟩⟩
      have found : (Settings.locate disk session.root).isSome = true :=
        List.find?_isSome.2 ⟨_, candidate, isFile⟩
      rw [missing] at found
      cases found
  have proper : Path.IsName (bytes settingsName) := by decide
  obtain ⟨root, opens⟩ := Disk.opens_of_target proper target
  refine ⟨root, writable.tree tree content, (Disk.Retains.refl disk).put writable.below free _, ?_,
    opens.of_keeps (writable.keeps content), ?_⟩
  · intro path location located
    rcases Disk.locate_of_put writable.below content located with before | rfl
    · exact Or.inl before
    · exact Or.inr free
  · have made := Disk.node?_put_self disk writable.below (.file content)
    exact List.find?_isSome.2 ⟨_, candidate,
      Disk.isFile_iff.2 ⟨content, Disk.find?_eq_some_iff.2 ⟨place, there, made⟩⟩⟩

section Template
variable (tree : disk.IsTree) (started : session.Started disk middle root)
  (absent : disk.holds session.templatePath = false)
include tree started absent

/-- The template goes where nothing was before the command began. -/
theorem free_for_template {ready : Disk} {failure : Option DiskError} {location : Location}
    (made : middle.createDirectories session.templateDirectory = (ready, failure))
    (target : ready.target session.templatePath = .ok location) : disk.node? location = none := by
  have proper : Path.IsName (bytes "templates") := by decide
  have named : Path.IsName (bytes "package-info.java") := by decide
  rcases Disk.createDirectories_child started.opens proper made with rfl | ⟨short, nothing, rfl⟩
  · rcases Disk.free_or_locate_of_target started.tree target with free | there
    · exact started.retains.free free
    · refine (started.found _ _ there).resolve_left fun before => ?_
      rw [Disk.holds_of_locate tree before] at absent
      cases absent
  · exact started.retains.free (Disk.free_of_new_directory started.tree started.opens proper named
      short (by decide) nothing target)

theorem placeTemplate_retains {after : Disk} {failure : Option DiskError}
    (placed : session.placeTemplate middle = (after, failure)) :
    Disk.Retains disk after ∧ Disk.Keeps middle after ∧
      (failure = none → after.holds session.templatePath = true) := by
  unfold placeTemplate at placed
  cases made : middle.createDirectories session.templateDirectory with
  | mk ready problem =>
    have kept := Disk.createDirectories_kept started.tree session.templateDirectory
    rw [made] at kept placed
    obtain ⟨stands, keeps⟩ := kept
    have extended := (Disk.createDirectories_extended started.tree made).1
    have retains : Disk.Retains disk ready := started.retains.trans extended.paved.retains
    cases problem with
    | some cause =>
      cases placed
      exact ⟨retains, keeps, fun none => nomatch none⟩
    | none =>
      dsimp only at placed
      cases failure with
      | none =>
        obtain ⟨location, target, there, rfl⟩ := Disk.locate_of_write stands placed
        have writable := Disk.target_writable stands target
        have free := free_for_template tree started absent made target
        refine ⟨retains.put writable.below free _, keeps.trans (writable.keeps _), fun _ => ?_⟩
        exact Disk.holds_iff.2 ⟨location, _, there, Disk.node?_put_self ready writable.below _⟩
      | some cause =>
        rw [Disk.write_eq_error placed]
        exact ⟨retains, keeps, fun none => nomatch none⟩

end Template

/-- With settings and a template in place there is nothing to do. -/
theorem init_of_settled (located : (Settings.locate disk session.root).isSome = true)
    (held : disk.holds session.templatePath = true) :
    (session.init disk).1.code = 0 ∧ (session.init disk).2 = disk := by
  unfold init finishInit
  dsimp only
  rw [if_pos located, if_pos held]
  exact ⟨rfl, rfl⟩

/-- What the second half leaves, once the settings are there. -/
theorem finishInit_settles (tree : disk.IsTree) (started : session.Started disk middle root)
    (done farewell : List String) {response : Response} {after : Disk}
    (finished : session.finishInit done farewell (disk.holds session.templatePath) middle =
      (response, after)) :
    Disk.Retains disk after ∧ (response.code = 0 →
      (Settings.locate after session.root).isSome = true ∧
        after.holds session.templatePath = true) := by
  unfold finishInit at finished
  cases held : disk.holds session.templatePath with
  | true =>
    rw [held, if_pos rfl] at finished
    cases finished
    exact ⟨started.retains, fun _ =>
      ⟨started.located, Disk.holds_of_keeps started.retains.keeps held⟩⟩
  | false =>
    rw [held, if_neg Bool.false_ne_true] at finished
    cases placed : session.placeTemplate middle with
    | mk last failure =>
      rw [placed] at finished
      obtain ⟨retains, keeps, there⟩ := placeTemplate_retains tree started held placed
      cases failure with
      | some cause =>
        cases finished
        exact ⟨retains, fun success => nomatch success⟩
      | none =>
        cases finished
        exact ⟨retains, fun _ => ⟨located_of_keeps keeps started.located, there rfl⟩⟩

/-- The command leaves all that was there as it was, also when it fails.  After a success there are
settings and a template, and the command can be repeated and changes nothing. -/
theorem init_only_adds_and_settles (session : Session) (disk : Disk) (tree : disk.IsTree) :
    (∀ location node, disk.node? location = some node →
      (session.init disk).2.node? location = some node) ∧
    ((session.init disk).1.code = 0 →
      (Settings.locate (session.init disk).2 session.root).isSome = true ∧
        (session.init disk).2.holds session.templatePath = true ∧
        (session.init (session.init disk).2).1.code = 0 ∧
        (session.init (session.init disk).2).2 = (session.init disk).2) := by
  suffices settles : Disk.Retains disk (session.init disk).2 ∧ ((session.init disk).1.code = 0 →
      (Settings.locate (session.init disk).2 session.root).isSome = true ∧
        (session.init disk).2.holds session.templatePath = true) by
    obtain ⟨retains, settled⟩ := settles
    refine ⟨retains.node, fun success => ?_⟩
    obtain ⟨located, held⟩ := settled success
    exact ⟨located, held, init_of_settled located held⟩
  unfold init
  dsimp only
  cases located : (Settings.locate disk session.root).isSome with
  | true =>
    obtain ⟨root, started⟩ := started_of_located tree located
    exact finishInit_settles tree started _ _ rfl
  | false =>
    rw [if_neg Bool.false_ne_true]
    cases written : disk.write session.settingsPath (bytes sampleSettings) with
    | mk middle failure =>
      cases failure with
      | none =>
        obtain ⟨root, started⟩ := started_of_written tree located written
        exact finishInit_settles tree started _ _ rfl
      | some cause =>
        rw [Disk.write_eq_error written]
        exact ⟨.refl disk, fun success => nomatch success⟩

end Session
end Console

namespace Sample

/-- Two links lead to one file that is not there. -/
def entwined : Disk where
  entries := [([bytes "p"], .directory), ([bytes "p", bytes "notes"], .file (bytes "old")),
    ([bytes "p", bytes "pkginfo.toml"], .link (.ofString "shared")),
    ([bytes "p", bytes "templates"], .directory),
    ([bytes "p", bytes "templates", bytes "package-info.java"], .link (.ofString "../shared"))]
  current := []
  ordered := by unfold Ordered; decide

def atProject : Console.Session where
  root := .ofString "p"
  coloured := false
  verbose := false
  filter := .choose none .warn

end Sample

theorem Console.Session.init_only_adds_and_settles_sample :
    Sample.entwined.IsTree ∧ (Sample.atProject.init Sample.entwined).1.code = 0 ∧
      (Sample.atProject.init Sample.entwined).2.find? (.ofString "p/pkginfo.toml") =
        some (.file (bytes sampleTemplate)) ∧
      (∀ location node, Sample.entwined.node? location = some node →
        (Sample.atProject.init Sample.entwined).2.node? location = some node) ∧
      (Sample.atProject.init Sample.entwined).2.holds Sample.atProject.templatePath = true ∧
      (Sample.atProject.init (Sample.atProject.init Sample.entwined).2).2 =
        (Sample.atProject.init Sample.entwined).2 := by
  have tree : Sample.entwined.IsTree := by decide
  have success : (Sample.atProject.init Sample.entwined).1.code = 0 := by decide +kernel
  obtain ⟨retains, settles⟩ := init_only_adds_and_settles Sample.atProject Sample.entwined tree
  obtain ⟨_, held, _, same⟩ := settles success
  exact ⟨tree, success, by decide +kernel, retains, held, same⟩

end PackageDoc
