import PackageDoc.Disk.Operation
import PackageDoc.Failure
import PackageDoc.Rule

/-! # Template stores

A store holds the text of each template once, under the place that its path leads to.  It is filled
before a run and only read afterwards. -/
set_option autoImplicit false

namespace PackageDoc

structure TemplateStore where
  templates : List (List Path.Part × String) := []
  deriving Repr

namespace TemplateStore

def find? (store : TemplateStore) (key : List Path.Part) : Option String :=
  (store.templates.find? (·.1 = key)).map (·.2)

def size (store : TemplateStore) : Nat := store.templates.length

/-- Whether a path leads to a template of the store. -/
def contains (store : TemplateStore) (disk : Disk) (path : Path) : Bool :=
  (store.find? (disk.key path)).isSome

/-- The text of a template of the store. -/
def get (store : TemplateStore) (disk : Disk) (path : Path) : Except Failure String :=
  match store.find? (disk.key path) with
  | some text => .ok text
  | none => .error (.templateNotLoaded path.display)

/-- Reads a template unless the store has it, and gives its text. -/
def load (store : TemplateStore) (disk : Disk) (path : Path) :
    Except Failure (String × TemplateStore) :=
  match store.find? (disk.key path) with
  | some text => .ok (text, store)
  | none =>
    match disk.readText path with
    | .ok text => .ok (text, ⟨store.templates ++ [(disk.key path, text)]⟩)
    | .error cause => .error (.templateLoad path.display cause)

/-- Reads the templates of rules in order, up to the first that cannot be read. -/
def loadRules (disk : Disk) : List Rule → TemplateStore → Except Failure TemplateStore
  | [], store => .ok store
  | rule :: rest, store => do
    let (_, store) ← store.load disk rule.template
    loadRules disk rest store

/-- The store of the templates of all rules. -/
def ofRules (disk : Disk) (rules : List Rule) : Except Failure TemplateStore :=
  loadRules disk rules {}

end TemplateStore
end PackageDoc
