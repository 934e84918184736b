/-
Whose work the handlers do.

Within the dispatch of one call others are dispatched, at any depth, and the
handlers may work for any of them. `Program.Commissions` says that a handler is
asked for a part of the work of some call that is dispatched, within its
dispatch; and whatever a handler is asked for in a dispatch is commissioned in
this way (`commissions_dispatch`). So what handlers do to a cluster can be put
down to single statements.

# The catalog

What the catalog has under a name is changed by handlers alone, so each change
is put down to the statement whose work it is, and it is the change of that
statement (`catalog_changes_by_work`). The changes are those that are due for
the name, and those that overstep: CREATE of a name that stands for a relation
of another kind, with IF NOT EXISTS or without, DROP and RENAME of objects that
are no relations, and RENAME to a name that is taken.
-/
import ClusterUtility.Proofs.Cluster.Catalog
import ClusterUtility.Proofs.Dispatch.Nested

namespace ClusterUtility

open Cluster (answer)
open Program (Leads Sequential exists_leads_of_ne)

variable {α β : Type} {config : Configuration} {i : Interceptor} {call : Call}
  {c d : Cluster} {r : Request}

-- ====================================================== commissions

namespace Program

/-- In the run of a program, a call is dispatched, and within its dispatch a
handler is asked, in some cluster, for a part of its work. -/
def Commissions (config : Configuration) (i : Interceptor) (p : Program α)
    (c : Cluster) (r : Request) (d : Cluster) : Prop :=
  ∃ other e next, p.Dispatches config i c other e ∧ r.WorksFor other ∧
    Leads answer (dispatch config i other) e (.ask r next) d

/-- What the first part of a program commissions, the program does. -/
private theorem Commissions.bind {p : Program α}
    (h : p.Commissions config i c r d) (next : α → Program β) :
    (Program.bind p next).Commissions config i c r d := by
  obtain ⟨other, e, following, hmoment, hworks, hasked⟩ := h
  exact ⟨other, e, following, hmoment.bind next, hworks, hasked⟩

/-- What the rest of a program commissions, the program does. -/
private theorem Commissions.after {p : Program α} {next : α → Program β}
    {value : α} {v : Cluster} (hp : Leads answer p c (.done value) v)
    (h : (next value).Commissions config i v r d) :
    (Program.bind p next).Commissions config i c r d := by
  obtain ⟨other, e, following, hmoment, hworks, hasked⟩ := h
  exact ⟨other, e, following, hmoment.after hp, hworks, hasked⟩

end Program

-- ====================================================== parts in a row

/-- Whatever a handler is asked for in the run of a program is work of a call,
or is commissioned by the program. -/
def WorksOnlyFor (config : Configuration) (i : Interceptor) (call : Call)
    (p : Program Unit) : Prop :=
  ∀ c r next d, Leads answer p c (.ask r next) d → r.reach = .work →
    r.WorksFor call ∨ p.Commissions config i c r d

/-- Working only for a call, and for what is commissioned, is handed on from
part to part. -/
private theorem sequential_worksOnlyFor (config : Configuration)
    (i : Interceptor) (call : Call) :
    Sequential (fun r => r.reach = .work → r.WorksFor call)
      (WorksOnlyFor config i call) where
  ofAsks := fun h _ _ _ _ hleads hwork => .inl ((h.leads hleads).1 hwork)
  bind := by
    intro p next hp hnext c r rest d hleads hwork
    rcases hleads.of_bind with ⟨left, hfirst⟩ | ⟨value, v, hdone, hrest⟩
    · exact (hp c r left d hfirst hwork).imp_right fun h => h.bind next
    · exact (hnext value v r rest d hrest hwork).imp_right
        fun h => h.after hdone
  after := by
    intro α gives p next hp hnext c r rest d hleads hwork
    rcases hleads.of_bind with ⟨left, hfirst⟩ | ⟨value, v, hdone, hrest⟩
    · exact .inl ((hp.leads hfirst).1 hwork)
    · have hgiven : gives value := hp.leads hdone
      exact (hnext value hgiven v r rest d hrest hwork).imp_right
        fun h => h.after hdone

/-- By itself, a call asks handlers for its own work alone. -/
theorem serves_worksFor (topology : Topology) (call : Call) :
    Serves (fun r => r.reach = .work → r.WorksFor call) topology call where
  home := by
    intro r hr hwork
    rw [hr] at hwork
    cases hwork
  work := fun _ hr _ => hr
  beginRemote := by
    intro _ _ hwork
    cases hwork
  setOption := by
    intro _ _ _ hwork
    cases hwork
  clean := by
    intro _ _ _ _ _ hwork
    cases hwork
  barrier := by
    intro _ _ _ _ hr hwork
    rw [hr.reach] at hwork
    cases hwork

/-- Two-phase commit is no work of handlers. -/
theorem treats_worksFor (gid : Gid) (call : Call) :
    Treats (fun r => r.reach = .work → r.WorksFor call) gid where
  home := by
    intro r hr hwork
    rw [hr] at hwork
    cases hwork
  concerned := by
    intro r hr hwork
    cases r with
    | execute | defineRelation | createStorage | createForeignTable
    | alterTable =>
        exact False.elim hr
    | _ => cases hwork
  abort := by
    intro hwork
    cases hwork

/-- What a handler is asked for in a dispatch is commissioned there. -/
theorem commissions_dispatch (config : Configuration) (i : Interceptor)
    (call : Call) {c : Cluster} {next : r.Reply → Program Unit}
    (hleads : Leads answer (dispatch config i call) c (.ask r next) d)
    (hwork : r.reach = .work) :
    (dispatch config i call).Commissions config i c r d := by
  induction call using dispatch_induction config generalizing c r d with
  | h call ih =>
      have hworks : WorksOnlyFor config i call (dispatch config i call) := by
        refine sequential_dispatch (sequential_worksOnlyFor config i call)
          config (serves_worksFor config.topology call) ?_ ?_ i ?_
        · intro _ _ _ hwork
          cases hwork
        · intro command _ hsome _ next hnext
          obtain ⟨gid, hgid⟩ := Option.isSome_iff_exists.mp hsome
          have hcommand := asks_run_of_gid? (treats_worksFor gid call)
            hgid call.context
          exact (sequential_worksOnlyFor config i call).after hcommand
            fun tag _ => hnext tag
        · intro hdepth s c r next d hleads hwork
          exact .inr (ih hdepth s hleads hwork)
      rcases hworks c r next d hleads hwork with hown | hcommissioned
      · exact ⟨call, c, next, call.dispatches_self config i c, hown, hleads⟩
      · exact hcommissioned

-- ====================================================== the catalog

/-- The catalog is changed by handlers. -/
theorem reach_of_change? {x : Exchange} {change : CatalogChange}
    (h : x.change? = some change) : x.request.reach = .work := by
  obtain ⟨r, reply⟩ := x
  cases r with
  | execute | defineRelation => rfl
  | _ => cases h

/-- A change of the catalog can be the work of a statement: it is what the
handler of the statement does, or the statement creates a table, and the name
is that of a table which it expands to. -/
def Statement.CanMake (s : Statement) (change : CatalogChange) : Prop :=
  s.change? = some change ∨
    s.isPrimalCreate = true ∧ ∃ name kind, change = .enter name kind

/-- The change that an answer makes is that of the statement whose work it
is. -/
theorem canMake_of_worksFor {reply : r.Reply} {change : CatalogChange}
    (hworks : r.WorksFor call)
    (hchange : Exchange.change? ⟨r, reply⟩ = some change) :
    call.statement.CanMake change := by
  cases r with
  | execute s text =>
      obtain ⟨rfl, -⟩ := hworks
      cases reply with
      | error failure => cases hchange
      | ok handled => exact .inl hchange
  | defineRelation create kind =>
      cases reply with
      | error failure => cases hchange
      | ok number =>
          obtain rfl := Option.some.inj hchange
          exact .inr ⟨hworks, _, _, rfl⟩
  | _ => cases hchange

/-- What a name stands for is changed, in a dispatch, by the work of the
statements that are dispatched, each answer to a request by itself: by what is
due for the name, and by what oversteps. -/
theorem catalog_changes_by_work (config : Configuration) (i : Interceptor)
    (call : Call) (c : Cluster) (q : QualifiedName) :
    (∀ r next d, Leads answer (dispatch config i call) c (.ask r next) d →
      ((answer r d).2.relationKind q ≠ d.relationKind q ↔
        ∃ change, Exchange.change? ⟨r, (answer r d).1⟩ = some change ∧
          (change.Due d.relations q.text
            ∨ change.Oversteps d.relations q.text) ∧
          ∃ other e rest, call.Dispatches config i c other e ∧
            Leads answer (dispatch config i other) e (.ask r rest) d ∧
            r.WorksFor other ∧ other.statement.CanMake change)) ∧
    ((c.perform (dispatch config i call)).2.relationKind q ≠ c.relationKind q →
      ∃ r next d, Leads answer (dispatch config i call) c (.ask r next) d ∧
        (answer r d).2.relationKind q ≠ d.relationKind q) := by
  refine ⟨fun r next d hleads => ?_,
    exists_leads_of_ne fun v : Cluster => v.relationKind q⟩
  rw [Cluster.relationKind_answer_ne_iff]
  constructor
  · rintro ⟨change, hchange, hdone⟩
    obtain ⟨other, e, rest, hmoment, hworks, hasked⟩ :=
      commissions_dispatch config i call hleads (reach_of_change? hchange)
    exact ⟨change, hchange, hdone, other, e, rest, hmoment, hasked, hworks,
      canMake_of_worksFor hworks hchange⟩
  · rintro ⟨change, hchange, hdone, -⟩
    exact ⟨change, hchange, hdone⟩

/-- A table is created, if there is none, under the name of a view. -/
def tableOverView : Call :=
  ⟨.createTable ⟨⟨none, "v"⟩, [], [], true⟩, "CREATE TABLE IF NOT EXISTS v ()",
    .topLevel .coordinator, true, false⟩

/-- A cluster with a view. -/
def withView : Cluster := (Cluster.fresh .standard "").setRelation "v" .view

/-- The handler of CREATE TABLE IF NOT EXISTS turns the view into a table. -/
theorem catalog_changes_by_work_tableOverView :
    ∃ r next, Leads answer (dispatch .standard .none tableOverView) withView
      (.ask r next) withView ∧
      withView.relationKind ⟨none, "v"⟩ = .ok .view ∧
      (answer r withView).2.relationKind ⟨none, "v"⟩ = .ok .table ∧
      r.WorksFor tableOverView ∧
      (CatalogChange.enter "v" .table).Oversteps withView.relations "v" := by
  have hleads : ∃ next,
      Leads answer (dispatch .standard .none tableOverView) withView
        (.ask (.defineRelation ⟨⟨none, "v"⟩, [], [], true⟩ .table) next)
        withView :=
    ⟨_, .tell (.ask (.ask (.ask .here)))⟩
  obtain ⟨next, hleads⟩ := hleads
  have hbefore : withView.relationKind ⟨none, "v"⟩ = .ok .view := rfl
  have hafter : (answer (.defineRelation ⟨⟨none, "v"⟩, [], [], true⟩ .table)
      withView).2.relationKind ⟨none, "v"⟩ = .ok .table := rfl
  obtain ⟨hchanges, -⟩ :=
    catalog_changes_by_work .standard .none tableOverView withView ⟨none, "v"⟩
  have hchanged : (answer (.defineRelation ⟨⟨none, "v"⟩, [], [], true⟩ .table)
      withView).2.relationKind ⟨none, "v"⟩
      ≠ withView.relationKind ⟨none, "v"⟩ := by
    rw [hbefore, hafter]
    exact nofun
  obtain ⟨change, hchange, hdone, -⟩ := (hchanges _ next _ hleads).mp hchanged
  obtain rfl : CatalogChange.enter "v" .table = change :=
    Option.some.inj hchange
  refine ⟨_, next, hleads, hbefore, hafter, rfl, ?_⟩
  rcases hdone with hdue | hover
  · -- the name is not free
    cases hdue with
    | enters hfree => cases hfree
  · exact hover

end ClusterUtility
