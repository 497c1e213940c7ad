import PackageDoc.Disk.Path
import PackageDoc.Glob

/-! # Rules

A rule binds a glob to a template.  Of several rules the first that claims a package wins. -/
set_option autoImplicit false

namespace PackageDoc

structure Rule where
  /-- Position among the configured packages. -/
  index : Nat
  pattern : String
  caseSensitive : Bool
  template : Path
  deriving DecidableEq, Repr

namespace Rule

def claims (rule : Rule) (package : String) : Bool :=
  Glob.accepts rule.pattern package rule.caseSensitive

/-- The first rule that claims a package. -/
def find? (rules : List Rule) (package : String) : Option Rule :=
  rules.find? (·.claims package)

end Rule
end PackageDoc
