/-
How the catalog changes.

The catalog is changed by two requests alone: the handler of a statement keeps
it as the statement leaves it, and a new relation is entered. What is done to
it is one of three things, and `CatalogChange` says which: a name is entered
with a kind, names are dropped, or a name is renamed.

# What is meant and what happens

A change is meant for a name that is free or for one that is known, and for
objects that are relations (`CatalogChange.Due`). Nothing looks at either: the
type of the objects that a statement drops or renames plays no part, and a
name that is taken is given the new kind. `CatalogChange.Oversteps` lists what
can come of it, and `apply_ne_iff` says that the two are all there is: a name
stands for something else after a change exactly if the change is due for it
or oversteps.
-/
import ClusterUtility.Proofs.Cluster.Answer
import ClusterUtility.Proofs.Program.Exchange

namespace ClusterUtility

open Cluster (answer)

-- ====================================================== changes

/-- The object types of relations. -/
def ObjectType.isRelation : ObjectType → Bool
  | .table => true
  | .view => true
  | .sequence => true
  | .index => true
  | .foreignTable => true
  | _ => false

/-- What is done to a catalog. Relations go by their names as shown. -/
inductive CatalogChange where
  | enter (name : String) (kind : RelationKind)
  | drop (objectType : ObjectType) (names : List String)
  | rename (objectType : ObjectType) (name target : String)

/-- The catalog after a change. -/
def CatalogChange.apply (relations : Directory String RelationKind) :
    CatalogChange → Directory String RelationKind
  | .enter name kind => relations.insert name kind
  | .drop _ names => names.foldl .erase relations
  | .rename _ name target =>
      match relations.get? name with
      | some kind => (relations.erase name).insert target kind
      | none => relations

/-- What the handler of a statement does to the catalog. -/
def Statement.change? : Statement → Option CatalogChange
  | .createView name _ => some (.enter name.text .view)
  | .createSequence name => some (.enter name.text .sequence)
  | .createIndex i => i.name.map fun name => .enter name .index
  | .drop d => some (.drop d.objectType (d.objects.map QualifiedName.text))
  | .rename r =>
      some (.rename r.objectType r.object.text
        (QualifiedName.mk r.object.schema r.newName).text)
  | _ => none

/-- What is done to the catalog in an exchange. -/
def Exchange.change? : Exchange → Option CatalogChange
  | ⟨.execute s _, .ok _⟩ => s.change?
  | ⟨.defineRelation create kind, .ok _⟩ =>
      some (.enter create.relation.text kind)
  | _ => none

variable {relations : Directory String RelationKind} {q : String}

/-- The handler of a statement applies the change of the statement. -/
theorem Cluster.relationsAfter_eq (relations : Directory String RelationKind)
    (s : Statement) :
    relationsAfter relations s
      = (s.change?.map (CatalogChange.apply relations)).getD relations := by
  cases s with
  | createIndex i =>
      unfold relationsAfter Statement.change?
      dsimp only
      cases i.name <;> rfl
  | drop d =>
      unfold relationsAfter Statement.change?
      show _ = (d.objects.map QualifiedName.text).foldl .erase relations
      rw [List.foldl_map]
  | _ => rfl

-- ====================================================== answers

/-- In whatever way a request is answered, the catalog after it is the catalog
with the change of the exchange applied, if there is one. -/
theorem Cluster.Reacts.catalog {c d : Cluster} {r : Request} {reply : r.Reply}
    (h : c.Reacts r reply d) :
    d.relations
      = ((Exchange.change? ⟨r, reply⟩).map
          (CatalogChange.apply c.relations)).getD c.relations := by
  cases h with
  | looks hlooks _ =>
      cases r with
      | execute | defineRelation => cases hlooks
      | _ => rfl
  | notes hentry _ =>
      cases r with
      | execute | defineRelation => cases hentry
      | _ => rfl
  | @runs s _ _ => exact relationsAfter_eq c.relations s
  | _ => rfl

/-- So the catalog after an answer is known from the exchange. -/
theorem Cluster.relations_answer (r : Request) (c : Cluster) :
    (answer r c).2.relations
      = ((Exchange.change? ⟨r, (answer r c).1⟩).map
          (CatalogChange.apply c.relations)).getD c.relations :=
  (reacts_answer r c).catalog

-- ======================================== what a change does to a name

variable {change : CatalogChange}

/-- Dropping names takes them out, and no others. -/
theorem get?_foldl_erase (names : List String)
    (relations : Directory String RelationKind) (q : String) :
    (names.foldl .erase relations).get? q
      = if q ∈ names then none else relations.get? q := by
  induction names generalizing relations with
  | nil => simp
  | cons name rest ih =>
      rw [List.foldl_cons, ih, Directory.get?_erase]
      by_cases hname : name = q
      · subst hname
        simp
      · simp [hname, Ne.symm hname]

namespace CatalogChange

/-- What a change is for: the name is free and is entered, or it is that of a
known relation which is dropped, or renamed to a free name. -/
inductive Due (relations : Directory String RelationKind) (q : String) :
    CatalogChange → Prop
  | enters {kind : RelationKind} (hfree : relations.get? q = none) :
      Due relations q (.enter q kind)
  | drops {objectType : ObjectType} {names : List String}
      (htype : objectType.isRelation = true) (hname : q ∈ names)
      (hknown : relations.get? q ≠ none) :
      Due relations q (.drop objectType names)
  | renames {objectType : ObjectType} {name target : String}
      (htype : objectType.isRelation = true) (hname : q = name ∨ q = target)
      (hknown : relations.get? name ≠ none)
      (hfree : relations.get? target = none) :
      Due relations q (.rename objectType name target)

/-- What a change does without being for it: it gives a name that is taken
another kind, or it takes a relation for an object of another type, or it
renames to a name that is taken. -/
inductive Oversteps (relations : Directory String RelationKind) (q : String) :
    CatalogChange → Prop
  | replaces {kind : RelationKind} (htaken : relations.get? q ≠ none)
      (hother : relations.get? q ≠ some kind) :
      Oversteps relations q (.enter q kind)
  | drops {objectType : ObjectType} {names : List String}
      (htype : objectType.isRelation = false) (hname : q ∈ names)
      (hknown : relations.get? q ≠ none) :
      Oversteps relations q (.drop objectType names)
  | renames {objectType : ObjectType} {name target : String}
      (htype : objectType.isRelation = false) (hname : q = name ∨ q = target)
      (hknown : relations.get? name ≠ none)
      (hfree : relations.get? target = none) :
      Oversteps relations q (.rename objectType name target)
  | overwrites {objectType : ObjectType} {name target : String}
      (hother : name ≠ target)
      (hname : q = name ∨
        q = target ∧ relations.get? name ≠ relations.get? target)
      (hknown : relations.get? name ≠ none)
      (htaken : relations.get? target ≠ none) :
      Oversteps relations q (.rename objectType name target)

/-- After a name is entered, it stands for something else if it did not have
the kind before. -/
theorem apply_enter_ne_iff {name : String} {kind : RelationKind} :
    (apply relations (.enter name kind)).get? q ≠ relations.get? q ↔
      name = q ∧ relations.get? q ≠ some kind := by
  unfold apply
  rw [Directory.get?_insert]
  by_cases hname : name = q
  · simp [hname, eq_comm]
  · simp [hname]

/-- After names are dropped, those of them that were known are not. -/
theorem apply_drop_ne_iff {objectType : ObjectType} {names : List String} :
    (apply relations (.drop objectType names)).get? q ≠ relations.get? q ↔
      q ∈ names ∧ relations.get? q ≠ none := by
  unfold apply
  rw [get?_foldl_erase]
  by_cases hname : q ∈ names
  · simp [hname, eq_comm]
  · simp [hname]

/-- After a relation is renamed, its old name is free, and its new name has its
kind. -/
theorem apply_rename_ne_iff {objectType : ObjectType} {name target : String} :
    (apply relations (.rename objectType name target)).get? q
      ≠ relations.get? q ↔
      relations.get? name ≠ none ∧ name ≠ target ∧
        (q = name ∨
          q = target ∧ relations.get? name ≠ relations.get? target) := by
  simp only [apply]
  cases hknown : relations.get? name with
  | none => simp
  | some kind =>
      dsimp only
      rw [Directory.get?_insert, Directory.get?_erase]
      by_cases htarget : target = q
      · subst htarget
        by_cases hname : name = target
        · simp [hname, ← hknown]
        · simp [hname, Ne.symm hname]
      · by_cases hname : name = q
        · subst hname
          simp [htarget, Ne.symm htarget, hknown]
        · simp [htarget, hname, Ne.symm hname, Ne.symm htarget]

/-- What a change is due for stands for something else after it. -/
theorem Due.changes (h : change.Due relations q) :
    (change.apply relations).get? q ≠ relations.get? q := by
  cases h with
  | enters hfree =>
      refine apply_enter_ne_iff.mpr ⟨rfl, ?_⟩
      rw [hfree]
      simp
  | drops htype hname hknown => exact apply_drop_ne_iff.mpr ⟨hname, hknown⟩
  | renames htype hname hknown hfree =>
      refine apply_rename_ne_iff.mpr ⟨hknown, ?_,
        hname.imp_right fun h => ⟨h, ?_⟩⟩
      · rintro rfl
        exact hknown hfree
      · rwa [hfree]

/-- So does what it oversteps for. -/
theorem Oversteps.changes (h : change.Oversteps relations q) :
    (change.apply relations).get? q ≠ relations.get? q := by
  cases h with
  | replaces htaken hother => exact apply_enter_ne_iff.mpr ⟨rfl, hother⟩
  | drops htype hname hknown => exact apply_drop_ne_iff.mpr ⟨hname, hknown⟩
  | renames htype hname hknown hfree =>
      refine apply_rename_ne_iff.mpr ⟨hknown, ?_,
        hname.imp_right fun h => ⟨h, ?_⟩⟩
      · rintro rfl
        exact hknown hfree
      · rwa [hfree]
  | overwrites hother hname hknown htaken =>
      exact apply_rename_ne_iff.mpr ⟨hknown, hother, hname⟩

/-- Nothing else does. -/
theorem due_or_oversteps
    (h : (change.apply relations).get? q ≠ relations.get? q) :
    change.Due relations q ∨ change.Oversteps relations q := by
  cases change with
  | enter name kind =>
      obtain ⟨rfl, hother⟩ := apply_enter_ne_iff.mp h
      by_cases hfree : relations.get? name = none
      · exact .inl (.enters hfree)
      · exact .inr (.replaces hfree hother)
  | drop objectType names =>
      obtain ⟨hname, hknown⟩ := apply_drop_ne_iff.mp h
      cases htype : objectType.isRelation with
      | true => exact .inl (.drops htype hname hknown)
      | false => exact .inr (.drops htype hname hknown)
  | rename objectType name target =>
      obtain ⟨hknown, hother, hname⟩ := apply_rename_ne_iff.mp h
      by_cases hfree : relations.get? target = none
      · have hends : q = name ∨ q = target := hname.imp_right And.left
        cases htype : objectType.isRelation with
        | true => exact .inl (.renames htype hends hknown hfree)
        | false => exact .inr (.renames htype hends hknown hfree)
      · exact .inr (.overwrites hother hname hknown hfree)

/-- A name stands for something else after a change exactly if the change is
due for it or oversteps. -/
theorem apply_ne_iff :
    (change.apply relations).get? q ≠ relations.get? q ↔
      change.Due relations q ∨ change.Oversteps relations q :=
  ⟨due_or_oversteps, fun h => h.elim Due.changes Oversteps.changes⟩

end CatalogChange

/-- A name stands for the same relation kind in two clusters if their catalogs
have the same under its text. -/
theorem Cluster.relationKind_eq_iff {c d : Cluster} {q : QualifiedName} :
    d.relationKind q = c.relationKind q ↔
    d.relations.get? q.text = c.relations.get? q.text := by
  unfold relationKind
  cases d.relations.get? q.text with
  | none => cases c.relations.get? q.text <;> simp
  | some kind => cases c.relations.get? q.text <;> simp

/-- An answer changes what a name stands for exactly if something is done to
the catalog, and that is due for the name or oversteps. -/
theorem Cluster.relationKind_answer_ne_iff {r : Request} {c : Cluster}
    {q : QualifiedName} :
    (answer r c).2.relationKind q ≠ c.relationKind q ↔
      ∃ change, Exchange.change? ⟨r, (answer r c).1⟩ = some change ∧
        (change.Due c.relations q.text ∨
          change.Oversteps c.relations q.text) := by
  rw [Ne, relationKind_eq_iff, relations_answer]
  cases hchange : Exchange.change? ⟨r, (answer r c).1⟩ with
  | none => simp
  | some change =>
      rw [← Ne]
      simp only [Option.map_some, Option.getD_some, Option.some.injEq,
        exists_eq_left']
      exact CatalogChange.apply_ne_iff

end ClusterUtility
