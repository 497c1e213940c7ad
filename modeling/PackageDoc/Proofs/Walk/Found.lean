import PackageDoc.Proofs.Walk.Scan

/-! # Which directories are sites

The sites that a scan finds are the visible directories with source files.  Each is found once, and
they ascend by their names. -/
set_option autoImplicit false

namespace PackageDoc
open PackageDoc.Text

/-! ## Comparing names -/

theorem lt_append_cons (names : List Name) (name : Name) (rest : List Name) :
    names < names ++ name :: rest := by
  induction names with
  | nil => exact List.nil_lt_cons name rest
  | cons head names ih => exact List.cons_lt_cons_iff.2 (Or.inr ⟨rfl, ih⟩)

theorem append_lt_append (names : List Name) {first second : Name} (less : first < second)
    (left right : List Name) : names ++ first :: left < names ++ second :: right := by
  induction names with
  | nil => exact List.cons_lt_cons_iff.2 (Or.inl less)
  | cons head names ih => exact List.cons_lt_cons_iff.2 (Or.inr ⟨rfl, ih⟩)

theorem eq_of_ascending {Item : Type} {Below : Item → Item → Prop}
    (asymmetric : ∀ one other, Below one other → ¬ Below other one) {first second : List Item}
    (one : first.Pairwise Below) (other : second.Pairwise Below)
    (same : ∀ item, item ∈ first ↔ item ∈ second) : first = second := by
  have distinct : ∀ {items : List Item}, items.Pairwise Below → items.Nodup := by
    intro items ascending
    refine ascending.imp fun {left right} below equal => ?_
    subst equal
    exact asymmetric _ _ below below
  exact List.Perm.eq_of_pairwise
    (fun left right _ _ below above => absurd above (asymmetric left right below)) one other
    ((List.perm_ext_iff_of_nodup (distinct one) (distinct other)).2 same)

namespace Plan
variable (plan : Plan) {disk : Disk}

/-- A visible directory with its source files, of which there are some. -/
structure IsSite (disk : Disk) (site : Site) : Prop where
  visible : Visible disk plan.options.source site.names
  listed : ∃ listing, plan.list disk (plan.directoryAt site.names) = .ok listing ∧
    listing.files = site.files
  some : site.files ≠ []

theorem mem_sitesAt {names files : List Name} {site : Site} :
    site ∈ sitesAt names files ↔ site = ⟨names, files⟩ ∧ files ≠ [] := by
  unfold sitesAt
  split
  next none => simp [List.isEmpty_iff.1 none]
  next some =>
    rw [List.mem_singleton, and_iff_left]
    exact fun none => some (List.isEmpty_iff.2 none)

variable {plan}

theorem Branches.scans {fuel : Nat} {ancestors : List (List Path.Part)} {names : List Name}
    {name : Name} {found : List Site} (branches : plan.Branches disk fuel ancestors names name found)
    (decodes : (string? name).isSome = true) :
    plan.Scans disk fuel ancestors (names ++ [name]) found := by
  obtain ⟨text, decoded⟩ := Option.isSome_iff_exists.1 decodes
  unfold Branches at branches
  rw [decoded] at branches
  exact branches

theorem Branches.cases {fuel : Nat} {ancestors : List (List Path.Part)} {names : List Name}
    {name : Name} {found : List Site} (branches : plan.Branches disk fuel ancestors names name found) :
    found = [] ∨ (string? name).isSome = true ∧
      plan.Scans disk fuel ancestors (names ++ [name]) found := by
  unfold Branches at branches
  split at branches
  · exact Or.inl branches
  next text decoded => exact Or.inr ⟨by rw [decoded]; rfl, branches⟩

theorem mem_flatten_of_forall₂ {Found : Name → List Site → Prop} {names : List Name}
    {below : List (List Site)} (related : List.Forall₂ Found names below) {site : Site} :
    site ∈ below.flatten → ∃ name ∈ names, ∃ found, Found name found ∧ site ∈ found := by
  induction related with
  | nil => intro member; exact absurd member List.not_mem_nil
  | @cons name found names below one rest ih =>
    intro member
    rw [List.flatten_cons] at member
    rcases List.mem_append.1 member with here | later
    · exact ⟨name, List.mem_cons_self, found, one, here⟩
    · obtain ⟨other, inside, others, related, held⟩ := ih later
      exact ⟨other, List.mem_cons_of_mem _ inside, others, related, held⟩

theorem exists_found_of_forall₂ {Item Other : Type} {Found : Item → Other → Prop}
    {items : List Item} {others : List Other} (related : List.Forall₂ Found items others)
    {item : Item} : item ∈ items → ∃ other ∈ others, Found item other := by
  induction related with
  | nil => intro member; exact absurd member List.not_mem_nil
  | @cons first other items others one rest ih =>
    intro member
    rcases List.mem_cons.1 member with rfl | later
    · exact ⟨other, List.mem_cons_self, one⟩
    · obtain ⟨another, inside, held⟩ := ih later
      exact ⟨another, List.mem_cons_of_mem _ inside, held⟩

/-- A scan finds visible directories only. -/
theorem isSite_of_scans : ∀ (fuel : Nat) (ancestors : List (List Path.Part)) (names : List Name)
    (sites : List Site), plan.Scans disk fuel ancestors names sites →
      Visible disk plan.options.source names →
      ∀ site ∈ sites, names <+: site.names ∧ plan.IsSite disk site := by
  intro fuel
  induction fuel with
  | zero =>
    intro ancestors names sites scans _ site member
    rw [show sites = [] from scans] at member
    exact absurd member List.not_mem_nil
  | succ fuel ih =>
    intro ancestors names sites scans visible site member
    obtain ⟨_, listing, below, listed, branches, rfl⟩ := scans
    rcases List.mem_append.1 member with here | deeper
    · obtain ⟨rfl, some⟩ := mem_sitesAt.1 here
      exact ⟨List.prefix_rfl, visible, ⟨listing, listed, rfl⟩, some⟩
    · obtain ⟨name, inside, found, branch, held⟩ := mem_flatten_of_forall₂ branches deeper
      rcases Branches.cases branch with none | ⟨decodes, scans⟩
      · rw [none] at held
        exact absurd held List.not_mem_nil
      · obtain ⟨extends_, isSite⟩ :=
          ih _ _ _ scans (visible_child visible listed inside decodes) site held
        exact ⟨(List.prefix_append names [name]).trans extends_, isSite⟩

/-- A scan with enough fuel misses no visible directory. -/
theorem mem_of_scans : ∀ (fuel : Nat) (ancestors : List (List Path.Part)) (names : List Name)
    (sites : List Site), plan.Scans disk fuel ancestors names sites →
      ∀ site, plan.IsSite disk site → names <+: site.names →
        site.names.length < names.length + fuel → site ∈ sites := by
  intro fuel
  induction fuel with
  | zero =>
    intro ancestors names sites _ site _ extends_ short
    exact absurd extends_.length_le (Nat.not_le.2 short)
  | succ fuel ih =>
    intro ancestors names sites scans site isSite extends_ short
    obtain ⟨_, listing, below, listed, branches, rfl⟩ := scans
    obtain ⟨rest, whole⟩ := extends_
    cases rest with
    | nil =>
      rw [List.append_nil] at whole
      obtain ⟨other, otherListed, files⟩ := isSite.listed
      rw [← whole, listed] at otherListed
      cases otherListed
      refine List.mem_append_left _ (mem_sitesAt.2 ⟨?_, ?_⟩)
      · rw [whole, files]
      · rw [files]
        exact isSite.some
    | cons name rest =>
      have step : Visible disk plan.options.source (names ++ [name]) := by
        have visible := isSite.visible
        rw [← whole, List.append_cons] at visible
        exact visible.of_append
      obtain ⟨_, _, _, _, _, _, decodes⟩ := step.of_concat
      obtain ⟨found, among, branch⟩ :=
        exists_found_of_forall₂ branches (mem_directories_of_concat step listed)
      refine List.mem_append_right _ (List.mem_flatten.2 ⟨found, among, ?_⟩)
      refine ih _ _ _ (Branches.scans branch decodes) site isSite ⟨rest, ?_⟩ ?_
      · rw [← whole, List.append_cons names name rest]
      · rw [List.length_append, List.length_singleton]
        omega

/-! ## Ascending -/

theorem ascending_of_forall₂ {Found : Name → List Site → Prop} {above : List Name}
    {names : List Name} {below : List (List Site)} (related : List.Forall₂ Found names below)
    (ascending : names.Pairwise (· < ·))
    (under : ∀ name ∈ names, ∀ found, Found name found →
      (∀ site ∈ found, above ++ [name] <+: site.names) ∧
        found.Pairwise fun one other => one.names < other.names) :
    below.flatten.Pairwise fun one other => one.names < other.names := by
  induction related with
  | nil => exact List.Pairwise.nil
  | @cons name found names below one rest ih =>
    rw [List.pairwise_cons] at ascending
    obtain ⟨inName, own⟩ := under name List.mem_cons_self found one
    have later := ih ascending.2 fun other member => under other (List.mem_cons_of_mem _ member)
    rw [List.flatten_cons, List.pairwise_append]
    refine ⟨own, later, ?_⟩
    intro left leftMember right rightMember
    obtain ⟨other, member, others, related, held⟩ := mem_flatten_of_forall₂ rest rightMember
    obtain ⟨leftRest, leftWhole⟩ := inName left leftMember
    obtain ⟨rightRest, rightWhole⟩ :=
      (under other (List.mem_cons_of_mem _ member) others related).1 right held
    rw [← leftWhole, ← rightWhole, List.append_assoc, List.append_assoc]
    exact append_lt_append above (ascending.1 other member) leftRest rightRest

theorem scans_ascending : ∀ (fuel : Nat) (ancestors : List (List Path.Part)) (names : List Name)
    (sites : List Site), plan.Scans disk fuel ancestors names sites →
      Visible disk plan.options.source names →
      sites.Pairwise fun one other => one.names < other.names := by
  intro fuel
  induction fuel with
  | zero =>
    intro ancestors names sites scans _
    rw [show sites = [] from scans]
    exact List.Pairwise.nil
  | succ fuel ih =>
    intro ancestors names sites scans visible
    obtain ⟨_, listing, below, listed, branches, rfl⟩ := scans
    have under : ∀ name ∈ listing.directories, ∀ found,
        plan.Branches disk fuel (disk.key (plan.directoryAt names) :: ancestors) names name found →
          (∀ site ∈ found, names ++ [name] <+: site.names) ∧
            found.Pairwise fun one other => one.names < other.names := by
      intro name member found branch
      rcases branch.cases with none | ⟨decodes, scans⟩
      · rw [none]
        exact ⟨fun site member => absurd member List.not_mem_nil, List.Pairwise.nil⟩
      · have deeper := visible_child visible listed member decodes
        exact ⟨fun site held => (isSite_of_scans _ _ _ _ scans deeper site held).1,
          ih _ _ _ scans deeper⟩
    rw [List.pairwise_append]
    refine ⟨?_, ascending_of_forall₂ branches (directories_ascending listed) under, ?_⟩
    · unfold sitesAt
      split
      · exact List.Pairwise.nil
      · exact List.pairwise_singleton _ _
    · intro here hereMember deeper deeperMember
      obtain ⟨rfl, _⟩ := mem_sitesAt.1 hereMember
      obtain ⟨name, member, found, branch, held⟩ := mem_flatten_of_forall₂ branches deeperMember
      obtain ⟨rest, whole⟩ := (under name member found branch).1 deeper held
      rw [← whole, List.append_assoc]
      exact lt_append_cons names name rest

/-! ## The sites of a whole walk -/

theorem mem_sites_iff (tree : disk.IsTree) {sites : List Site}
    (scans : plan.Scans disk Disk.pathLimit [] [] sites) (site : Site) :
    site ∈ sites ↔ plan.IsSite disk site := by
  constructor
  · intro member
    exact (isSite_of_scans _ _ _ _ scans .root site member).2
  · intro isSite
    have short := isSite.visible.length_lt tree
    exact mem_of_scans _ _ _ _ scans site isSite List.nil_prefix (by simpa using short)

theorem scans_distinct {fuel : Nat} {ancestors : List (List Path.Part)} {names : List Name}
    {sites : List Site} (scans : plan.Scans disk fuel ancestors names sites)
    (visible : Visible disk plan.options.source names) :
    sites.Pairwise fun one other => one.names ≠ other.names := by
  refine (scans_ascending _ _ _ _ scans visible).imp fun {one other} less equal => ?_
  rw [equal] at less
  exact List.lt_irrefl _ less

/-- Two scans that look for the same sites find them in the same order. -/
theorem sites_unique {other : Plan} {later : Disk} (tree : disk.IsTree) (laterTree : later.IsTree)
    {first second : List Site} (scans : plan.Scans disk Disk.pathLimit [] [] first)
    (rescans : other.Scans later Disk.pathLimit [] [] second)
    (same : ∀ site, plan.IsSite disk site ↔ other.IsSite later site) : first = second := by
  refine eq_of_ascending (fun one other => List.lt_asymm) (scans_ascending _ _ _ _ scans .root)
    (scans_ascending _ _ _ _ rescans .root) fun site => ?_
  rw [mem_sites_iff tree scans, mem_sites_iff laterTree rescans, same]

end Plan
end PackageDoc
