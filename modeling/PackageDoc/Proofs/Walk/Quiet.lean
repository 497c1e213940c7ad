import PackageDoc.Proofs.Walk.Rooted
import PackageDoc.Proofs.Walk.Sites

/-! # Walks that write nothing

Where nothing is written, the walk of one plan can be told from the sites that another plan finds on
another disk. -/
set_option autoImplicit false

namespace PackageDoc.Plan
open PackageDoc.Text

variable {plan other : Plan} {disk later : Disk} {root : Location} {sites : List Site}
  {decisions : List Decision}

/-- A walk that writes nothing is told by its sites and by what is decided there. -/
theorem walk_of_decided (rooted : disk.Rooted plan.options.source root)
    (directory : disk.isDirectory plan.options.source = true) (tree : later.IsTree)
    (scans : other.Scans later Disk.pathLimit [] [] sites)
    (same : ∀ site, plan.IsSite disk site ↔ other.IsSite later site)
    (decided : plan.Decided disk sites decisions) (still : ∀ site ∈ sites, plan.Still disk site) :
    plan.walk Disk.pathLimit [] plan.options.source plan.options.output "" { disk := disk } =
      .ok (plan.told { disk := disk } disk sites decisions) := by
  obtain ⟨found, rescans⟩ := scans_source rooted directory
  obtain rfl := sites_unique rooted.tree tree rescans scans same
  have listsAs : ∀ later, later = disk → plan.ListsAs disk later := by
    rintro later rfl
    exact ListsAs.refl plan later
  have folded := walk_eq_foldlM plan (· = disk) listsAs Disk.pathLimit [] [] found rescans .root
    (fun site member => settles_of_still (still site member)) { disk := disk } rfl
  exact folded.trans (foldlM_of_decided decided still { disk := disk } rfl)

end PackageDoc.Plan
