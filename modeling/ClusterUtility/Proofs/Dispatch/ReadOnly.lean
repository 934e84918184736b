/-
What a read-only transaction keeps from the catalog.

The gate refuses, in a read-only transaction, what its table says changes
something. The catalog is changed elsewhere, by the handlers of statements that
are about relations and by those who enter new relations; a statement of an
expansion that is handled directly comes to them past the gate. So three tables
have to fit: whatever works on the catalog must have been refused
(`sparesCatalog_of_worksFor`).

A statement of an expansion sees the circumstances of its parent, one level
deeper. So the bound on one call is one on the whole dispatch, by the induction
on the levels that are left (`asks_dispatch_readOnly`).
-/
import ClusterUtility.Proofs.Dispatch.Barred

namespace ClusterUtility

open Cluster (Adds Event answer)
open Program (Asks sequential_asks)

variable {config : Configuration} {i : Interceptor} {call : Call} {c : Cluster}
  {r : Request} {s : Statement}

-- ================================================= work on the catalog

/-- The entry tells of work on the catalog: a relation, its storage or its tie
to a server was made, or a table was altered. -/
def Cluster.Event.isCatalogWork : Event → Bool
  | .relationDefined .. => true
  | .storageCreated _ => true
  | .foreignTableCreated _ => true
  | .tableAltered _ => true
  | _ => false

/-- The request has nobody work on the catalog. -/
def Request.SparesCatalog : Request → Prop
  | .execute s _ => s.change? = none
  | .defineRelation .. => False
  | .createStorage .. => False
  | .createForeignTable .. => False
  | .alterTable _ => False
  | _ => True

/-- Whoever is no handler does not work on the catalog. -/
theorem sparesCatalog_of_reach (hr : r.reach ≠ .work) : r.SparesCatalog := by
  cases r with
  | execute | defineRelation | createStorage | createForeignTable
  | alterTable =>
      exact absurd rfl hr
  | _ => trivial

/-- What changes the catalog by its handler is a change to the gate. -/
theorem Statement.change?_of_not_mutates (hmutates : s.gate.mutates = false) :
    s.change? = none := by
  cases s with
  | createView | createSequence | drop | rename => cases hmutates
  | createIndex i =>
      cases hconcurrent : i.concurrent <;>
        simp [gate, hconcurrent, GateProfile.mutating,
          GateProfile.withBlock] at hmutates
  | _ => rfl

/-- What creates a table is a change to the gate. -/
private theorem Statement.mutates_of_isPrimalCreate
    (h : s.isPrimalCreate = true) : s.gate.mutates = true := by
  cases s with
  | createTable | createForeignTable => rfl
  | _ => cases h

/-- What the gate does not count as a change works on the catalog by none of
its ways. -/
theorem sparesCatalog_of_worksFor
    (hmutates : call.statement.gate.mutates = false)
    (hworks : r.WorksFor call) : r.SparesCatalog := by
  have hprimal : call.statement.isPrimalCreate ≠ true := by
    intro h
    rw [Statement.mutates_of_isPrimalCreate h] at hmutates
    cases hmutates
  cases r with
  | execute s text =>
      obtain ⟨rfl, -⟩ := hworks
      exact Statement.change?_of_not_mutates hmutates
  | defineRelation | createStorage | createForeignTable => exact hprimal hworks
  | alterTable alter =>
      obtain ⟨parent, hparent⟩ := hworks
      rw [hparent] at hmutates
      cases hmutates
  | _ => trivial

/-- An answer to such a request leaves the catalog as it was. -/
theorem relations_answer_of_sparesCatalog (hr : r.SparesCatalog)
    (c : Cluster) : (answer r c).2.relations = c.relations := by
  have hchange : Exchange.change? ⟨r, (answer r c).1⟩ = none := by
    cases r with
    | execute s text =>
        show Exchange.change? ⟨.execute s text, (answer (.execute s text) c).1⟩
            = none
        cases (answer (.execute s text) c).1 with
        | error failure => rfl
        | ok handled => exact hr
    | defineRelation | createStorage | createForeignTable | alterTable =>
        exact hr.elim
    | _ => rfl
  rw [Cluster.relations_answer, hchange]
  rfl

/-- A request that spares the catalog enters no work on it. -/
private theorem isCatalogWork_of_records {event : Event} (hr : r.SparesCatalog)
    (hrecords : r.Records event) : event.isCatalogWork = false := by
  cases r with
  | defineRelation | createStorage | createForeignTable | alterTable =>
      exact hr.elim
  | endBlock => rcases hrecords with rfl | rfl <;> rfl
  | prepareBlock gid => rcases hrecords with rfl | rfl <;> rfl
  | _ => first | exact hrecords.elim | (obtain rfl := hrecords; rfl)

-- ==================================================== a whole dispatch

/-- A call that the gate does not count as a change spares the catalog by
itself. -/
theorem serves_sparesCatalog (hmutates : call.statement.gate.mutates = false)
    (topology : Topology) : Serves Request.SparesCatalog topology call where
  home := fun _ hr => sparesCatalog_of_reach (by simp [hr])
  work := fun _ hr => sparesCatalog_of_worksFor hmutates hr
  beginRemote := fun _ _ => trivial
  setOption := fun _ _ _ => trivial
  clean := fun _ _ _ _ _ => trivial
  barrier := fun _ _ _ _ hr => sparesCatalog_of_reach (by simp [hr.reach])

/-- Two-phase commit does not work on the catalog. -/
theorem treats_sparesCatalog (gid : Gid) :
    Treats Request.SparesCatalog gid where
  home := fun _ hr => sparesCatalog_of_reach (by simp [hr])
  concerned := fun r hr => by
    cases r with
    | execute | defineRelation | createStorage | createForeignTable
    | alterTable => exact hr.elim
    | _ => trivial
  abort := trivial

/-- In a read-only transaction, a dispatch spares the catalog. -/
theorem asks_dispatch_readOnly (config : Configuration) (i : Interceptor)
    (hreadOnly : call.context.readOnly = true) :
    Asks Request.SparesCatalog (dispatch config i call) := by
  induction call using dispatch_induction config with
  | h call ih =>
      cases hmutates : call.statement.gate.mutates with
      | true =>
          exact (barred_of_readOnly hreadOnly hmutates config).asks trivial i
      | false =>
          refine sequential_dispatch (sequential_asks _) config
            (serves_sparesCatalog hmutates config.topology)
            (fun _ _ _ => trivial) ?_ i
            fun hdepth s => ih hdepth s hreadOnly
          intro command _ hsome _ next hnext
          obtain ⟨gid, hgid⟩ := Option.isSome_iff_exists.mp hsome
          exact Asks.bind (asks_run_of_gid? (treats_sparesCatalog gid) hgid _)
            hnext

-- ============================================== what changes something

/-- A statement that changes something has a class, whatever the session
holds. -/
theorem classify_of_mutates (hmutates : s.gate.mutates = true) (c : Cluster) :
    ∃ level, (c.perform (classify s)).1 = .ok level := by
  obtain ⟨level, htarget⟩ : ∃ level, s.logTarget = .level level := by
    cases s with
    | prepare | execute | explain => cases hmutates
    | query | copy => cases hmutates
    | _ => exact ⟨_, rfl⟩
  have hlevel : s.level? c.session.objects = some level := by
    unfold Statement.level?
    rw [htarget]
    rfl
  refine ⟨level, ?_⟩
  unfold classify
  rw [Program.bind_eq, Cluster.perform_request_bind]
  simp only [answer, hlevel]
  rfl

/-- In a read-only transaction, a dispatch leaves the catalog as it was, and
enters no work on it into the journal. A statement that changes something is
refused under its own tag before anything is done, unless it is too deep or an
interceptor refuses it before. -/
theorem catalog_kept_when_readOnly (config : Configuration) (i : Interceptor)
    (call : Call) (c : Cluster) (hreadOnly : call.context.readOnly = true) :
    (c.perform (dispatch config i call)).2.relations = c.relations ∧
      Adds (fun event => event.isCatalogWork = false) c
        (c.perform (dispatch config i call)).2 ∧
      (call.statement.gate.mutates = true →
        i.admits call.statement.kind = true →
        call.context.depth ≤ config.maxDepth →
        c.perform (dispatch config i call)
          = (.error (.readOnly call.statement.tag), c)) := by
  have hasks := asks_dispatch_readOnly config i hreadOnly
  refine ⟨?_, ?_, fun hmutates hadmits hdepth => ?_⟩
  · exact hasks.keeps (fun d : Cluster => d.relations)
      (fun _ d hr => relations_answer_of_sparesCatalog hr d) c
  · exact Cluster.adds_perform hasks
      (fun _ hr _ => isCatalogWork_of_records hr) c
  · obtain ⟨level, hlevel⟩ := classify_of_mutates hmutates c
    exact (barred_of_readOnly hreadOnly hmutates config).perform_eq
      hadmits hdepth hlevel

/-- CREATE TABLE in a read-only transaction, among the statements of an
expansion. -/
def readOnlyTable : Call :=
  ⟨.createTable ⟨.bare "t", [], [], false⟩, "CREATE TABLE t ()",
    { (Context.topLevel .coordinator).forSubstatement with
        readOnly := true }, false, false⟩

/-- CREATE TABLE is refused under its own tag, and the cluster stays as it
was. -/
theorem catalog_kept_when_readOnly_table :
    (Cluster.fresh .standard "").perform
        (dispatch .standard .standard readOnlyTable)
      = (.error (.readOnly "CREATE TABLE"), .fresh .standard "") :=
  (catalog_kept_when_readOnly .standard .standard readOnlyTable
    (.fresh .standard "") rfl).2.2 rfl rfl (by decide)

end ClusterUtility
