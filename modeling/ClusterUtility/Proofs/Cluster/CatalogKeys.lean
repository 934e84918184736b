/-
Names as the keys of a catalog.

A catalog keeps a relation under the text of its name, in which the schema and
the name are joined by a point. Either of them may hold points of its own, and
the text does not show which of its points is the joining one. So several names
can have one text, and all of them find what the catalog has under it.

# Legible names

A name is legible if no point of its text comes before the joining one, and if
it has no point where nothing was joined. Reading takes a text apart at its
first point, so what it gives is legible, and of all the names with a text it
is the only legible one (`shown_and_legible_iff`). The round trip follows from
this: a name comes back from its text exactly if it is legible, and legible
names with one text are one name.

# In a catalog

Entering a relation by a text goes through the name that the text shows and
back to the same text, so the key is the text as it was given
(`relations_setRelation`), and the names that find the relation are those with
this text, legible or not. Names that are legible and different have different
keys: whatever becomes of the entry under one of them, the other stands for
what it stood for.
-/
import ClusterUtility.Proofs.Cluster.Catalog
import ClusterUtility.Session

namespace ClusterUtility

namespace QualifiedName

variable {q r : QualifiedName} {schema name text : String} {before : List Char}

/-- The point that joins the parts of a name is the first of its text; a name
without a schema has no point. -/
def Legible (q : QualifiedName) : Prop :=
  match q.schema with
  | some schema => '.' ∉ schema.toList
  | none => '.' ∉ q.name.toList

instance : DecidablePred Legible
  | ⟨some schema, _⟩ => inferInstanceAs (Decidable ('.' ∉ schema.toList))
  | ⟨none, name⟩ => inferInstanceAs (Decidable ('.' ∉ name.toList))

-- ===================================================== the first point

/-- Characters without a point are not split. -/
theorem splitAtPoint_of_not_mem (h : '.' ∉ before) :
    splitAtPoint before = (before, none) := by
  induction before with
  | nil => rfl
  | cons c rest ih =>
      simp only [List.mem_cons, not_or] at h
      unfold splitAtPoint
      rw [if_neg (Ne.symm h.1), ih h.2]

/-- Characters are split at the point that no other comes before. -/
theorem splitAtPoint_append (h : '.' ∉ before) (after : List Char) :
    splitAtPoint (before ++ '.' :: after) = (before, some after) := by
  induction before with
  | nil => rfl
  | cons c rest ih =>
      simp only [List.mem_cons, not_or] at h
      rw [List.cons_append]
      unfold splitAtPoint
      rw [if_neg (Ne.symm h.1), ih h.2]

/-- A text has no point, or it is joined by its first one. -/
theorem unjoined_or_joined (text : String) :
    '.' ∉ text.toList ∨
      ∃ schema name : String, '.' ∉ schema.toList ∧
        text = schema ++ "." ++ name := by
  by_cases hpoint : '.' ∈ text.toList
  · obtain ⟨before, after, hsplit, hbefore⟩ :=
      List.eq_append_cons_of_mem hpoint
    refine .inr ⟨String.ofList before, String.ofList after, ?_, ?_⟩
    · rwa [String.toList_ofList]
    · apply String.toList_injective
      rw [hsplit]
      simp
  · exact .inl hpoint

-- ====================================================== reading

/-- A text without a point is a name without a schema. -/
theorem ofText_unjoined (h : '.' ∉ text.toList) : ofText text = bare text := by
  unfold ofText
  rw [splitAtPoint_of_not_mem h]
  rfl

/-- A schema without a point is found again before the name. -/
theorem ofText_joined (h : '.' ∉ schema.toList) (name : String) :
    ofText (schema ++ "." ++ name) = ⟨some schema, name⟩ := by
  have hchars : (schema ++ "." ++ name).toList
      = schema.toList ++ '.' :: name.toList := by
    simp
  unfold ofText
  rw [hchars, splitAtPoint_append h]
  simp

/-- The name that is read from a text shows the text. -/
theorem text_ofText (text : String) : (ofText text).text = text := by
  rcases unjoined_or_joined text with h | ⟨schema, name, hschema, rfl⟩
  · rw [ofText_unjoined h]
    rfl
  · rw [ofText_joined hschema]
    rfl

/-- A name that is read is legible. -/
theorem legible_ofText (text : String) : (ofText text).Legible := by
  rcases unjoined_or_joined text with h | ⟨schema, name, hschema, rfl⟩
  · rw [ofText_unjoined h]
    exact h
  · rw [ofText_joined hschema]
    exact hschema

/-- A legible name is read from its text. -/
theorem Legible.ofText_text (h : q.Legible) : ofText q.text = q := by
  obtain ⟨schema, name⟩ := q
  cases schema with
  | some schema => exact ofText_joined h name
  | none => exact ofText_unjoined h

/-- A name is read from its text exactly if it is legible. -/
theorem ofText_text_iff : ofText q.text = q ↔ q.Legible := by
  constructor
  · intro h
    rw [← h]
    exact legible_ofText q.text
  · exact Legible.ofText_text

/-- Of the names with a text, the one that is read from it is legible, and no
other is. -/
theorem shown_and_legible_iff :
    q.text = text ∧ q.Legible ↔ q = ofText text := by
  constructor
  · rintro ⟨rfl, hlegible⟩
    exact hlegible.ofText_text.symm
  · rintro rfl
    exact ⟨text_ofText text, legible_ofText text⟩

/-- Legible names with one text are one name. -/
theorem Legible.eq_of_text_eq (hq : q.Legible) (hr : r.Legible)
    (h : q.text = r.text) : q = r := by
  calc q = ofText r.text := shown_and_legible_iff.mp ⟨h, hq⟩
    _ = r := hr.ofText_text

end QualifiedName

-- ====================================================== the catalog

open QualifiedName (ofText)

namespace Cluster

/-- A relation is entered under the text that it is given by. -/
theorem relations_setRelation (c : Cluster) (name : String)
    (kind : RelationKind) :
    (c.setRelation name kind).relations = c.relations.insert name kind := by
  unfold setRelation
  rw [QualifiedName.text_ofText]

/-- The names with this text stand for the relation, and the others for what
they stood for. -/
theorem relationKind_setRelation (c : Cluster) (name : String)
    (kind : RelationKind) (q : QualifiedName) :
    (c.setRelation name kind).relationKind q
      = if q.text = name then .ok kind else c.relationKind q := by
  unfold relationKind
  rw [relations_setRelation, Directory.get?_insert]
  by_cases hname : q.text = name
  · rw [if_pos hname.symm, if_pos hname]
  · rw [if_neg (Ne.symm hname), if_neg hname]

end Cluster

/-- Relations that are entered one after the other are all in the catalog, each
under its text. -/
theorem Cluster.relations_setRelations (c : Cluster)
    (relations : List (String × RelationKind)) :
    (relations.foldl (fun c (name, kind) =>
      c.setRelation name kind) c).relations
      = relations.foldl (fun d entry => d.insert entry.1 entry.2)
        c.relations := by
  induction relations generalizing c with
  | nil => rfl
  | cons entry rest ih =>
      rw [List.foldl_cons, List.foldl_cons, ih, relations_setRelation]

/-- A session starts with the relations that it is given, and of those with one
text the last counts. -/
theorem Session.relations_start (config : Configuration) (timestamp : String)
    (relations : List (String × RelationKind)) :
    (Session.start config timestamp relations).cluster.relations
      = .ofList relations :=
  Cluster.relations_setRelations
    (Cluster.fresh config.topology timestamp) relations

-- ====================================================== keys

/-- Every text is shown by the name that is read from it, and a name is read
from its text exactly if it is legible. So a relation that is entered by a text
is found by the names with this text, while all others find what they found;
and legible names that differ share no entry: they have different texts, and
whatever a catalog comes to have under the text of one, the other stands for
what it stood for. -/
theorem catalog_keeps_names_apart :
    (∀ text : String, (ofText text).text = text) ∧
    (∀ q : QualifiedName, ofText q.text = q ↔ q.Legible) ∧
    (∀ (c : Cluster) (text : String) (kind : RelationKind) (q : QualifiedName),
      (q.text = text → (c.setRelation text kind).relationKind q = .ok kind) ∧
      (q.text ≠ text → (c.setRelation text kind).relationKind q
        = c.relationKind q)) ∧
    ∀ q r : QualifiedName, q.Legible → r.Legible → q ≠ r →
      q.text ≠ r.text ∧
      ∀ c d : Cluster,
        (∀ key, key ≠ q.text → d.relations.get? key = c.relations.get? key) →
        d.relationKind r = c.relationKind r := by
  refine ⟨QualifiedName.text_ofText,
    fun q => QualifiedName.ofText_text_iff, ?_, ?_⟩
  · intro c text kind q
    rw [Cluster.relationKind_setRelation]
    exact ⟨fun htext => if_pos htext, fun htext => if_neg htext⟩
  · intro q r hq hr hdiffer
    have htexts : q.text ≠ r.text := fun h => hdiffer (hq.eq_of_text_eq hr h)
    refine ⟨htexts, fun c d hother => ?_⟩
    exact Cluster.relationKind_eq_iff.mpr (hother r.text htexts.symm)

/-- A catalog with a view under a text with two points. -/
def withPointedView :
    Cluster := (Cluster.fresh .standard "").setRelation "a.b.c" .view

/-- The text is that of three names, of which the one with the schema `a` is
legible. All three stand for the view, and a table `b.c` is not found by it. -/
theorem catalog_keeps_names_apart_twoPoints :
    (QualifiedName.mk (some "a") "b.c").Legible ∧
    (QualifiedName.mk (some "b") "c").Legible ∧
    ofText "a.b.c" = ⟨some "a", "b.c"⟩ ∧
    ofText (QualifiedName.mk (some "a.b") "c").text ≠ ⟨some "a.b", "c"⟩ ∧
    withPointedView.relationKind ⟨some "a.b", "c"⟩ = .ok .view ∧
    withPointedView.relationKind ⟨none, "a.b.c"⟩ = .ok .view ∧
    withPointedView.relationKind ⟨some "b", "c"⟩ = .error
      (.relationNotFound "b.c") := by
  obtain ⟨-, hread, hset, hapart⟩ := catalog_keeps_names_apart
  have hlegible : (QualifiedName.mk (some "a") "b.c").Legible := by decide
  have hillegible : ¬ (QualifiedName.mk (some "a.b") "c").Legible := by decide
  have hother : (QualifiedName.mk (some "b") "c").Legible := by decide
  refine ⟨hlegible, hother, (hread _).mpr hlegible,
    fun h => hillegible ((hread _).mp h), (hset _ _ _ _).1 rfl,
    (hset _ _ _ _).1 rfl, ?_⟩
  obtain ⟨-, hkept⟩ := hapart ⟨some "a", "b.c"⟩ _ hlegible hother (by decide)
  have hentered : ∀ key, key ≠ "a.b.c" →
      withPointedView.relations.get? key
        = (Cluster.fresh .standard "").relations.get? key := by
    intro key hkey
    unfold withPointedView
    rw [Cluster.relations_setRelation, Directory.get?_insert,
      if_neg (Ne.symm hkey)]
  rw [hkept (Cluster.fresh .standard "") withPointedView hentered]
  rfl

end ClusterUtility
