/-
The group of a list of relations.

TRUNCATE, and GRANT and REVOKE on relations that are listed, go to the one
group that all listed relations belong to. The plan asks the catalog for one
name after another and stops at the first that does not fit, so what it comes
to is decided by the first such name (`Catalog.objection?`), and a plan is made
only if there is none.

Nothing here needs to know how a catalog is kept. A world has a catalog if it
looks every name up in it and is not changed by that (`Consults`); a cluster is
such a world.
-/
import ClusterUtility.Proofs.Cluster.Perform
import ClusterUtility.Plan

namespace ClusterUtility

open Program (Answers Run run request run_bind)

variable {σ : Type} {answer : Answers σ} {w : σ} {s : Statement}
  {command : String} {names : List QualifiedName} {g : NodeGroup}

-- ====================================================== catalogs

/-- A catalog: the kind of the relation that a name stands for. -/
abbrev Catalog := QualifiedName → Option RelationKind

namespace Catalog

variable {catalog : Catalog}

/-- The kind of a relation, or that there is none of the name. -/
def kindOf (catalog : Catalog) (name : QualifiedName) :
    Except Failure RelationKind :=
  match catalog name with
  | some kind => .ok kind
  | none => .error (.relationNotFound name.text)

/-- The group of the relation that a name stands for. -/
def group? (catalog : Catalog) (name : QualifiedName) : Option NodeGroup :=
  (catalog name).map RelationKind.group

/-- The names all stand for relations of a group; no names are for every
node. -/
def AllIn (catalog : Catalog) (names : List QualifiedName)
    (g : NodeGroup) : Prop :=
  (names = [] → g = .all) ∧ ∀ name ∈ names, catalog.group? name = some g

/-- The group of the first name of a list. -/
def leading? (catalog : Catalog) (names : List QualifiedName) :
    Option NodeGroup :=
  names.head?.bind catalog.group?

/-- Why a command cannot take a name along with one of the leading group: it is
unknown, or belongs to another group. -/
def objection? (catalog : Catalog) (command : String)
    (leading : Option NodeGroup) (name : QualifiedName) : Option Failure :=
  match catalog.group? name with
  | none => some (.relationNotFound name.text)
  | some g =>
      if leading = some g then none else some (.ambiguousTargets command)

/-- The first name of a list that cannot be taken along with the first of all
decides the failure. -/
def Refuses (catalog : Catalog) (command : String) (names : List QualifiedName)
    (failure : Failure) : Prop :=
  ∃ before name after, names = before ++ name :: after ∧
    catalog.objection? command (catalog.leading? names) name = some failure ∧
    ∀ earlier ∈ before,
      catalog.objection? command (catalog.leading? names) earlier = none

/-- Nothing is objected to the names of the leading group, and to no others. -/
private theorem objection?_eq_none {leading : Option NodeGroup}
    {name : QualifiedName} :
    catalog.objection? command leading name = none ↔
      ∃ g, leading = some g ∧ catalog.group? name = some g := by
  unfold objection?
  cases catalog.group? name with
  | none =>
      constructor
      · intro h
        cases h
      · rintro ⟨g, -, hg⟩
        cases hg
  | some other =>
      constructor
      · intro h
        by_cases hleading : leading = some other
        · exact ⟨other, hleading, rfl⟩
        · simp [hleading] at h
      · rintro ⟨g, hleading, hg⟩
        rw [Option.some.inj hg]
        exact if_pos hleading

/-- Names that leave nothing to object to are all of the leading group. -/
theorem allIn_of_no_objection
    (h : ∀ name ∈ names,
      catalog.objection? command (catalog.leading? names) name = none) :
    catalog.AllIn names ((catalog.leading? names).getD .all) := by
  refine ⟨?_, fun name hname => ?_⟩
  · rintro rfl
    rfl
  · obtain ⟨g, hleading, hg⟩ := objection?_eq_none.mp (h name hname)
    rw [hleading, hg]
    rfl

/-- Names that are all of a group leave nothing to object to, and it is the
leading one. -/
theorem AllIn.leading (h : catalog.AllIn names g) (command : String) :
    (catalog.leading? names).getD .all = g ∧
      ∀ name ∈ names,
        catalog.objection? command (catalog.leading? names) name = none := by
  cases names with
  | nil => exact ⟨(h.1 rfl).symm, by simp⟩
  | cons first rest =>
      have hleading : catalog.leading? (first :: rest) = some g :=
        h.2 first List.mem_cons_self
      rw [hleading]
      refine ⟨rfl, fun name hname => ?_⟩
      exact objection?_eq_none.mpr ⟨g, rfl, h.2 name hname⟩

/-- Order and repetition of the names do not matter. -/
theorem AllIn.congr {others : List QualifiedName}
    (h : ∀ name, name ∈ others ↔ name ∈ names) :
    catalog.AllIn others g ↔ catalog.AllIn names g := by
  have hnil : others = [] ↔ names = [] := by
    simp only [List.eq_nil_iff_forall_not_mem, h]
  simp only [AllIn, hnil, h]

/-- What asking for all names of a list in turn comes to. -/
def verdict (catalog : Catalog) (command : String)
    (names : List QualifiedName) : Except Failure NodeGroup :=
  match names.findSome?
    (catalog.objection? command (catalog.leading? names)) with
  | some failure => .error failure
  | none => .ok ((catalog.leading? names).getD .all)

/-- Asking ends well with a group if and only if all names are in it. -/
private theorem verdict_eq_ok (command : String) :
    catalog.verdict command names = .ok g ↔ catalog.AllIn names g := by
  unfold verdict
  cases hfind : names.findSome?
    (catalog.objection? command (catalog.leading? names)) with
  | none =>
      have hclean := List.findSome?_eq_none_iff.mp hfind
      constructor
      · intro h
        rw [← Except.ok.inj h]
        exact allIn_of_no_objection hclean
      · intro h
        exact congrArg Except.ok (h.leading command).1
  | some failure =>
      constructor
      · intro h
        cases h
      · intro h
        rw [List.findSome?_eq_none_iff.mpr (h.leading command).2] at hfind
        cases hfind

/-- Asking fails with what is objected to the first name that does not fit. -/
private theorem verdict_eq_error {failure : Failure} :
    catalog.verdict command names = .error failure ↔
      catalog.Refuses command names failure := by
  unfold verdict Refuses
  rw [← List.findSome?_eq_some_iff]
  cases names.findSome?
    (catalog.objection? command (catalog.leading? names)) with
  | none => simp
  | some other => simp

end Catalog

-- ==================================================== asking a catalog

/-- A world looks every name up in a catalog, and is not changed by it. -/
def Consults (answer : Answers σ) (catalog : Catalog) (w : σ) : Prop :=
  ∀ name, answer (.relationKind name) w = (catalog.kindOf name, w)

/-- The catalog of a cluster. -/
def Cluster.catalog (c : Cluster) : Catalog :=
  fun name => c.relations.get? name.text

/-- Every cluster looks names up in its relations. -/
private theorem consults_cluster (c : Cluster) :
    Consults Cluster.answer c.catalog c := by
  intro name
  show (c.relationKind name, c) = (c.catalog.kindOf name, c)
  unfold Cluster.relationKind Catalog.kindOf Cluster.catalog
  cases c.relations.get? name.text <;> rfl

/-- A program that only looked is as its value to what comes after it. -/
theorem run_bind_of_looked {α β : Type} {p : Program α} {value : α}
    (next : α → Program β) (h : run answer p w = ⟨.ok value, w, []⟩) :
    run answer (Program.bind p next) w = run answer (next value) w := by
  rw [run_bind, h]
  rfl

/-- A program that fails having only looked leaves nothing to what comes after
it. -/
private theorem run_bind_of_failed {α β : Type} {p : Program α}
    {failure : Failure} (next : α → Program β)
    (h : run answer p w = ⟨.error failure, w, []⟩) :
    run answer (Program.bind p next) w = ⟨.error failure, w, []⟩ := by
  rw [run_bind, h]

variable {catalog : Catalog} {name : QualifiedName}

/-- The group of a known relation is found. -/
private theorem run_groupOf_known (hcatalog : Consults answer catalog w)
    (hname : catalog.group? name = some g) :
    run answer (Plan.groupOf name) w = ⟨.ok g, w, []⟩ := by
  obtain ⟨kind, hkind, hg⟩ := Option.map_eq_some_iff.mp hname
  have hanswer := hcatalog name
  rw [Catalog.kindOf, hkind] at hanswer
  simp [Plan.groupOf, request, run, hanswer, Program.ofReply, hg]

/-- A name that stands for no relation is reported as unknown. -/
private theorem run_groupOf_unknown (hcatalog : Consults answer catalog w)
    (hname : catalog.group? name = none) :
    run answer (Plan.groupOf name) w
      = ⟨.error (.relationNotFound name.text), w, []⟩ := by
  have hanswer := hcatalog name
  rw [Catalog.kindOf, Option.map_eq_none_iff.mp hname] at hanswer
  simp [Plan.groupOf, request, run, hanswer, Program.ofReply]

/-- Checking one name against a group fails with what is objected to. -/
theorem run_requireName (hcatalog : Consults answer catalog w)
    (command : String) (g : NodeGroup) (name : QualifiedName) :
    run answer (Program.bind (Plan.groupOf name) fun other =>
        if other = g then (return ()) else .fail (.ambiguousTargets command)) w
      = match catalog.objection? command (some g) name with
        | some failure => ⟨.error failure, w, []⟩
        | none => ⟨.ok (), w, []⟩ := by
  unfold Catalog.objection?
  cases hname : catalog.group? name with
  | none => exact run_bind_of_failed _ (run_groupOf_unknown hcatalog hname)
  | some other =>
      rw [run_bind_of_looked _ (run_groupOf_known hcatalog hname)]
      by_cases hsame : g = other
      · simp only [hsame, if_true]
        rfl
      · simp only [Ne.symm hsame, Option.some.injEq, hsame, if_false]
        rfl

/-- Checking names against a group ends at the first that is objected to. -/
theorem run_requireGroup (hcatalog : Consults answer catalog w)
    (command : String) (g : NodeGroup) (names : List QualifiedName) :
    run answer (Plan.requireGroup command g names) w
      = match names.findSome? (catalog.objection? command (some g)) with
        | some failure => ⟨.error failure, w, []⟩
        | none => ⟨.ok (), w, []⟩ := by
  induction names with
  | nil => rfl
  | cons name rest ih =>
      have hname := run_requireName hcatalog command g name
      rw [Plan.requireGroup, Program.forEach, ← Plan.requireGroup,
        List.findSome?_cons]
      cases hobjection : catalog.objection? command (some g) name with
      | some failure =>
          rw [hobjection] at hname
          exact run_bind_of_failed _ hname
      | none =>
          rw [hobjection] at hname
          rw [← ih]
          exact run_bind_of_looked _ hname

/-- The first name sets the group, and all others are checked against it. -/
theorem run_commonGroup (hcatalog : Consults answer catalog w)
    (command : String) (names : List QualifiedName) :
    run answer (Plan.commonGroup command names) w
      = ⟨catalog.verdict command names, w, []⟩ := by
  cases names with
  | nil => rfl
  | cons first rest =>
      have hleading : catalog.leading? (first :: rest)
          = catalog.group? first := rfl
      rw [Plan.commonGroup, Program.bind_eq, Catalog.verdict, hleading,
        List.findSome?_cons]
      cases hfirst : catalog.group? first with
      | none =>
          rw [run_bind_of_failed _ (run_groupOf_unknown hcatalog hfirst)]
          simp only [Catalog.objection?, hfirst]
      | some g =>
          have hclean : catalog.objection? command (some g) first = none :=
            Catalog.objection?_eq_none.mpr ⟨g, rfl, hfirst⟩
          rw [run_bind_of_looked _ (run_groupOf_known hcatalog hfirst), hclean,
            Program.bind_eq, run_bind, run_requireGroup hcatalog]
          cases rest.findSome? (catalog.objection? command (some g)) <;> rfl

-- =================================== statements about listed relations

/-- The relations that a statement lists for all of them to be in one place,
and the command that is named where they are not. -/
def Statement.listed? : Statement → Option (String × List QualifiedName)
  | .truncate t => some ("TRUNCATE", t.relations)
  | .grant g =>
      if g.objectType = .relation ∧ g.target = .object then
        some (g.tag, g.objects) else none
  | _ => none

/-- A statement that lists relations is routed by them, after it has run. -/
private theorem Statement.route?_of_listed?
    (hs : s.listed? = some (command, names)) :
    s.route? = some (Destination.ofRelations command names).after := by
  cases s with
  | truncate t =>
      cases hs
      rfl
  | grant g =>
      by_cases hlisted : g.objectType = .relation ∧ g.target = .object
      · simp only [Statement.listed?, if_pos hlisted, Option.some.injEq,
          Prod.mk.injEq] at hs
        simp only [Statement.route?, Grant.destination, hlisted.1,
          hlisted.2, hs.1, hs.2]
      · simp [Statement.listed?, hlisted] at hs
  | _ => cases hs

/-- The plan of a statement that lists relations is made of what asking for all
of them comes to. -/
private theorem run_makePlan_listed (hcatalog : Consults answer catalog w)
    (hs : s.listed? = some (command, names)) :
    run answer (Plan.make s) w
      = ⟨(catalog.verdict command names).map fun g =>
          some ⟨g, false, .afterLocal⟩, w, []⟩ := by
  have hmake : Plan.make s
      = Program.bind (Plan.commonGroup command names) fun g =>
        return some ⟨g, false, .afterLocal⟩ := by
    unfold Plan.make
    rw [Statement.route?_of_listed? hs]
    rfl
  rw [hmake, run_bind, run_commonGroup hcatalog]
  cases catalog.verdict command names <;> rfl

/-- A statement that lists relations has a plan if and only if all of them are
in one group. -/
private theorem makePlan_listed_eq_ok (hcatalog : Consults answer catalog w)
    (hs : s.listed? = some (command, names)) {plan : Option Plan} :
    (run answer (Plan.make s) w).result = .ok plan ↔
      ∃ g, plan = some ⟨g, false, .afterLocal⟩ ∧ catalog.AllIn names g := by
  rw [run_makePlan_listed hcatalog hs]
  simp only [← Catalog.verdict_eq_ok command]
  cases catalog.verdict command names with
  | error failure =>
      constructor
      · intro h
        cases h
      · rintro ⟨g, -, hg⟩
        cases hg
  | ok g =>
      constructor
      · intro h
        exact ⟨g, (Except.ok.inj h).symm, rfl⟩
      · rintro ⟨other, rfl, hg⟩
        rw [Except.ok.inj hg]
        rfl

/-- The plan of a statement that lists relations: it goes to a group if and
only if all names stand for relations of the group, none of them to every node;
else the first name that is unknown, or of another group than the first name of
all, decides the failure. Nothing but the catalog is looked at. So another
statement with the same names, in whatever order and however often, has the
same plans. -/
theorem listed_plan (hcatalog : Consults answer catalog w)
    (hs : s.listed? = some (command, names)) :
    (run answer (Plan.make s) w).world = w ∧
      (∀ plan, (run answer (Plan.make s) w).result = .ok plan ↔
        ∃ g, plan = some ⟨g, false, .afterLocal⟩ ∧ catalog.AllIn names g) ∧
      (∀ failure, (run answer (Plan.make s) w).result = .error failure ↔
        catalog.Refuses command names failure) ∧
      ∀ other command' names', other.listed? = some (command', names') →
        (∀ name, name ∈ names' ↔ name ∈ names) →
        ∀ plan, (run answer (Plan.make other) w).result = .ok plan ↔
          (run answer (Plan.make s) w).result = .ok plan := by
  refine ⟨?_, fun plan => makePlan_listed_eq_ok hcatalog hs,
    fun failure => ?_, fun other command' names' hother hmem plan => ?_⟩
  · rw [run_makePlan_listed hcatalog hs]
  · rw [run_makePlan_listed hcatalog hs, ← Catalog.verdict_eq_error]
    cases catalog.verdict command names with
    | ok g => simp [Except.map]
    | error _ => simp [Except.map]
  · rw [makePlan_listed_eq_ok hcatalog hother,
      makePlan_listed_eq_ok hcatalog hs]
    simp only [Catalog.AllIn.congr hmem]

/-- A cluster with a table and a view. -/
def tableAndView : Cluster :=
  ((Cluster.fresh .standard "").setRelation "t" .table).setRelation "v" .view

/-- TRUNCATE of a table, a view and a relation that is not there. -/
def truncateMixed : Statement :=
  .truncate ⟨[.bare "t", .bare "v", .bare "u"], false, false⟩

/-- The view comes before the relation that is not there, so it decides. -/
theorem listed_plan_truncateMixed :
    (Program.run Cluster.answer (Plan.make truncateMixed) tableAndView).result
        = .error (.ambiguousTargets "TRUNCATE") ∧
      tableAndView.catalog.Refuses "TRUNCATE" [.bare "t", .bare "v", .bare "u"]
        (.ambiguousTargets "TRUNCATE") := by
  have hresult :
      (Program.run Cluster.answer (Plan.make truncateMixed)
        tableAndView).result = .error (.ambiguousTargets "TRUNCATE") := by
    rfl
  have hlaw := listed_plan (s := truncateMixed)
    (consults_cluster tableAndView) rfl
  exact ⟨hresult, (hlaw.2.2.1 _).mp hresult⟩

end ClusterUtility
