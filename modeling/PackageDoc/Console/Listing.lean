import PackageDoc.Console.Session

/-! # The command `list`

The rules with the packages that each one claims, and the packages that none claims. -/
set_option autoImplicit false

namespace PackageDoc.Console.Session

/-- The visits of the packages that a rule claims. -/
def claimed (report : Report) (index : Nat) : List Visit :=
  report.visits.filter (·.rule = some index)

/-- The visits of the packages that no rule claims. -/
def unclaimed (report : Report) : List Visit := report.visits.filter (·.rule.isNone)

def claimedLine (visit : Visit) : String :=
  "      " ++ shownPackage visit.package ++
    (if visit.outcome.isWrite then " (out of date)" else "")

def unclaimedLine (visit : Visit) : String := "  " ++ shownPackage visit.package

def entryLine (session : Session) (index : Nat) (entry : PackageEntry) : String :=
  "  [" ++ toString index ++ "] " ++ entry.pattern.getD "" ++
    (if entry.caseSensitive then "" else " (case-insensitive)") ++
    " -> " ++ (entry.template.map session.shown).getD ""

/-- An entry and the packages that its rule claims. -/
def entryLines (session : Session) (report : Report) (index : Nat) (entry : PackageEntry) :
    List String :=
  session.entryLine index entry :: (claimed report index).map claimedLine

def unclaimedLines (session : Session) (report : Report) : List String :=
  match unclaimed report with
  | [] => []
  | visits => ["", session.paint .bold "Unmatched:"] ++ visits.map unclaimedLine

def totals (options : Options) (report : Report) : String :=
  toString options.packages.length ++ " rule(s), " ++ toString report.visits.length ++
    " package(s), " ++ toString (report.count (· = .noMatch)) ++ " unmatched"

def listLines (session : Session) (options : Options) (report : Report) : List String :=
  session.paint .bold "Rules:" ::
    options.packages.zipIdx.flatMap (fun (entry, index) => session.entryLines report index entry) ++
    session.unclaimedLines report ++ ["", totals options report]

def list (session : Session) (disk : Disk) : Response × Disk :=
  session.withOptions disk fun options =>
    if options.packages.isEmpty then (.success (lines ["No package rules configured."]), disk)
    else
      session.withReport { options with dryRun := true } disk fun report =>
        .success (lines (session.listLines options report))

end PackageDoc.Console.Session
