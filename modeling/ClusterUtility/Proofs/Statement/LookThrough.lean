/-
Looking through statements for their logging class.

PREPARE and EXPLAIN ANALYZE stand for the statement inside, and EXECUTE stands
for the prepared statement that it names (`Statement.LooksInto`). The class of
a statement is that of the one at which this ends (`Statement.HasLevel`).
Inside a statement it ends by itself, since what is inside is smaller. From
EXECUTE it goes on in a statement of any size, so whether it ends hangs on the
table of prepared statements (`Statement.Settles`).

# As many names as there are

`Statement.level?` follows no more names than are prepared, and one more. That
is enough: where so many names were followed, one of them was met twice, and
what led from it back to itself leads on for ever (`nameAfter_isSome`). So a
class is found exactly where looking through ends (`level?_eq_some`), and
none is found exactly where it does not (`level?_eq_none`).

# Tables that change

A statement that is taken out of the table takes a way of going on with it
(`Settles.of_fewer`). A statement that is put in adds one, at its name. If
looking through ended before and does not come from the new statement to its
own name, it still ends everywhere (`settles_prepare`). If it does come to the
name, then executing the name never ends (`not_settles_of_reaches`).
-/
import ClusterUtility.Cluster.Commands
import Mathlib.Data.Finset.Card
import Mathlib.Logic.Relation

namespace ClusterUtility

variable {o o' : SessionObjects} {s t u : Statement} {name other : String}
  {level : LogClass}

-- ===================================================== looking through

/-- The class of the first statement is that of the second one. -/
inductive Statement.LooksInto (o : SessionObjects) :
    Statement → Statement → Prop
  | prepare (name : String) (query : Statement) :
      (Statement.prepare name query).LooksInto o query
  | explain (verbose : Bool) (query : Statement) :
      (Statement.explain true verbose query).LooksInto o query
  | execute {name : String} {p : PreparedStatement}
      (into : Option QualifiedName) (params : List Json.Whole)
      (hprepared : o.prepared.get? name = some p) :
      (Statement.execute name into params).LooksInto o p.statement

/-- From the statement, looking through comes to an end. -/
def Statement.Settles (o : SessionObjects) (s : Statement) : Prop :=
  Acc (fun t s => Statement.LooksInto o s t) s

/-- The class of a statement: its own, where it looks into no other statement,
else the class of what it looks into. -/
inductive Statement.HasLevel (o : SessionObjects) : Statement → LogClass → Prop
  | own {s : Statement} (hnone : ∀ t, ¬ s.LooksInto o t) :
      s.HasLevel o s.levelAlone
  | inner {s t : Statement} {level : LogClass} (hlooks : s.LooksInto o t)
      (ht : t.HasLevel o level) : s.HasLevel o level

/-- Looking through the statement comes to an execution of a name. -/
def Statement.Reaches (o : SessionObjects) (s : Statement)
    (name : String) : Prop :=
  ∃ into params, Relation.ReflTransGen (Statement.LooksInto o) s
    (.execute name into params)

/-- The classes that statements have. -/
def LogClass.IsOfStatement (level : LogClass) : Prop :=
  level = .ddl ∨ level = .mod ∨ level = .all

/-- Looking through the statement ends, and the class at its end is found. -/
structure Statement.IsClassified (o : SessionObjects)
    (s : Statement) : Prop where
  settles : s.Settles o
  found : ∃ level, s.level? o = some level ∧ s.HasLevel o level ∧
    level.IsOfStatement

/-- A statement looks into one other at most. -/
theorem Statement.LooksInto.unique (h : s.LooksInto o t)
    (h' : s.LooksInto o u) : t = u := by
  cases h with
  | prepare name query =>
      cases h'
      rfl
  | explain verbose query =>
      cases h'
      rfl
  | execute into params hprepared =>
      cases h' with
      | execute _ _ hprepared' =>
          rw [hprepared] at hprepared'
          rw [Option.some.inj hprepared']

/-- What is so of statements that look nowhere and of executions, and is handed
on to a statement from the one inside, is so of every statement. -/
theorem Statement.look_induction {motive : Statement → Prop}
    (nowhere : ∀ s level, s.logTarget = .level level → level.IsOfStatement →
      (∀ o t, ¬ LooksInto o s t) → motive s)
    (inside : ∀ s t, s.logTarget = t.logTarget → (∀ o, LooksInto o s t) →
      motive t → motive s)
    (execute : ∀ name into params, motive (.execute name into params))
    (s : Statement) : motive s := by
  cases s with
  | prepare name query =>
      exact inside _ query rfl (fun _ => .prepare name query)
        (look_induction nowhere inside execute query)
  | explain analyze verbose query =>
      cases analyze with
      | true =>
          exact inside _ query rfl (fun _ => .explain verbose query)
            (look_induction nowhere inside execute query)
      | false => exact nowhere _ _ rfl (.inr (.inr rfl)) nofun
  | execute name into params => exact execute name into params
  | query q =>
      refine nowhere _ q.level rfl ?_ nofun
      unfold Query.level
      split
      · split
        · exact .inl rfl
        · exact .inr (.inr rfl)
      all_goals exact .inr (.inl rfl)
  | copy c =>
      cases hfrom : c.isFrom with
      | true => exact nowhere _ .mod (if_pos hfrom) (.inr (.inl rfl)) nofun
      | false =>
          exact nowhere _ .all (if_neg (by simp [hfrom]))
            (.inr (.inr rfl)) nofun
  | _ => exact nowhere _ _ rfl (by simp [LogClass.IsOfStatement]) nofun
termination_by s

-- ===================================================== following names

/-- What can be followed with some names can be followed with one more. -/
theorem LogTarget.follow_succ {prepared : Directory String PreparedStatement}
    {n : Nat} {target : LogTarget}
    (h : target.follow prepared n = some level) :
    target.follow prepared (n + 1) = some level := by
  induction n generalizing target with
  | zero =>
      cases target with
      | level c => exact h
      | prepared name => cases h
  | succ n ih =>
      cases target with
      | level c => exact h
      | prepared name =>
          unfold follow at h ⊢
          cases hprepared : prepared.get? name with
          | none =>
              rw [hprepared] at h
              exact h
          | some p =>
              rw [hprepared] at h
              exact ih h

/-- What can be followed with some names can be followed with more. -/
private theorem LogTarget.follow_mono
    {prepared : Directory String PreparedStatement} {n m : Nat}
    {target : LogTarget} (h : target.follow prepared n = some level)
    (hle : n ≤ m) : target.follow prepared m = some level := by
  induction hle with
  | refl => exact h
  | step _ ih => exact follow_succ ih

/-- A class that is found without names is that of the statement, if the
classes that are found by names are. -/
theorem hasLevel_of_target {n : Nat}
    (hexecute : ∀ name into params,
      (LogTarget.prepared name).follow o.prepared n = some level →
        (Statement.execute name into params).HasLevel o level)
    (h : s.logTarget.follow o.prepared n = some level) :
    s.HasLevel o level := by
  induction s using Statement.look_induction with
  | nowhere s found htarget _ hnone =>
      rw [htarget] at h
      have hfound : found = level := by
        cases n <;> exact Option.some.inj h
      have halone : s.levelAlone = level := by
        unfold Statement.levelAlone
        rw [htarget]
        exact hfound
      rw [← halone]
      exact .own (hnone o)
  | inside s t htarget hlooks ih =>
      rw [htarget] at h
      exact .inner (hlooks o) (ih h)
  | execute name into params => exact hexecute name into params h

/-- A class that following comes to is the class of the statement. -/
theorem hasLevel_of_follow {n : Nat}
    (h : s.logTarget.follow o.prepared n = some level) :
    s.HasLevel o level := by
  induction n generalizing s with
  | zero =>
      refine hasLevel_of_target (fun name into params hzero => ?_) h
      cases hzero
  | succ n ih =>
      refine hasLevel_of_target (fun name into params hsucc => ?_) h
      unfold LogTarget.follow at hsucc
      cases hprepared : o.prepared.get? name with
      | none =>
          rw [hprepared] at hsucc
          obtain rfl := Option.some.inj hsucc
          refine .own (s := .execute name into params) fun t hlooks => ?_
          cases hlooks with
          | execute _ _ hp =>
              rw [hprepared] at hp
              cases hp
      | some p =>
          rw [hprepared] at hsucc
          exact .inner (.execute into params hprepared) (ih hsucc)

/-- Some number of names is enough to come to the class of a statement. -/
theorem exists_follow (h : s.HasLevel o level) :
    ∃ n, s.logTarget.follow o.prepared n = some level := by
  induction h with
  | @own s hnone =>
      induction s using Statement.look_induction with
      | nowhere s found htarget _ _ =>
          refine ⟨0, ?_⟩
          unfold Statement.levelAlone
          rw [htarget]
          rfl
      | inside s t htarget hlooks ih => exact absurd (hlooks o) (hnone t)
      | execute name into params =>
          refine ⟨1, ?_⟩
          show (LogTarget.prepared name).follow o.prepared 1 = _
          unfold LogTarget.follow
          cases hprepared : o.prepared.get? name with
          | none => rfl
          | some p =>
              exact absurd (.execute into params hprepared) (hnone p.statement)
  | inner hlooks _ ih =>
      obtain ⟨n, hn⟩ := ih
      cases hlooks with
      | prepare name query => exact ⟨n, hn⟩
      | explain verbose query => exact ⟨n, hn⟩
      | execute into params hprepared =>
          refine ⟨n + 1, ?_⟩
          show LogTarget.follow o.prepared (n + 1) (.prepared _) = _
          unfold LogTarget.follow
          rw [hprepared]
          exact hn

-- ========================================== as many names as there are

namespace SessionObjects

/-- The name that looking through comes to next after a name. -/
def next? (o : SessionObjects) (name : String) : Option String :=
  match o.prepared.get? name with
  | none => none
  | some p =>
      match p.statement.logTarget with
      | .level _ => none
      | .prepared other => some other

/-- The name that looking through comes to after a name and some steps. -/
def nameAfter (o : SessionObjects) : Nat → String → Option String
  | 0, name => some name
  | n + 1, name => (o.next? name).bind (o.nameAfter n)

/-- Steps are taken one after another. -/
private theorem nameAfter_add (o : SessionObjects) (m n : Nat)
    (name : String) :
    o.nameAfter (m + n) name = (o.nameAfter m name).bind (o.nameAfter n) := by
  induction m generalizing name with
  | zero =>
      rw [Nat.zero_add]
      rfl
  | succ m ih =>
      rw [Nat.succ_add]
      show (o.next? name).bind (o.nameAfter (m + n))
        = ((o.next? name).bind (o.nameAfter m)).bind (o.nameAfter n)
      cases o.next? name with
      | none => rfl
      | some other => exact ih other

/-- Following fails where there is one more name after all that were
followed. -/
theorem follow_eq_none (o : SessionObjects) (n : Nat) (name : String) :
    (LogTarget.prepared name).follow o.prepared n = none ↔
      (o.nameAfter n name).isSome = true := by
  induction n generalizing name with
  | zero => exact ⟨fun _ => rfl, fun _ => rfl⟩
  | succ n ih =>
      unfold LogTarget.follow nameAfter next?
      cases o.prepared.get? name with
      | none => simp
      | some p =>
          cases htarget : p.statement.logTarget with
          | level c =>
              simp only [htarget]
              cases n <;> simp [LogTarget.follow]
          | prepared other =>
              simp only [htarget]
              exact ih other

/-- Where there is a name after some steps, there is one after fewer. -/
theorem nameAfter_isSome_of_le {m n : Nat} (hle : m ≤ n)
    (h : (o.nameAfter n name).isSome = true) :
    (o.nameAfter m name).isSome = true := by
  obtain ⟨k, rfl⟩ := Nat.exists_eq_add_of_le hle
  rw [nameAfter_add] at h
  cases hm : o.nameAfter m name with
  | none =>
      rw [hm] at h
      cases h
  | some other => rfl

/-- A name that leads to another one is prepared. -/
theorem mem_keys_of_next? (h : (o.next? name).isSome = true) :
    name ∈ o.prepared.entries.map Prod.fst := by
  have hfind (entries : List (String × PreparedStatement))
      (hsome : (Directory.find name entries).isSome = true) :
      name ∈ entries.map Prod.fst := by
    induction entries with
    | nil => cases hsome
    | cons entry rest ih =>
        unfold Directory.find at hsome
        split at hsome
        next heq =>
          rw [List.map_cons, heq]
          exact List.mem_cons_self ..
        next => exact List.mem_cons_of_mem _ (ih hsome)
  refine hfind _ ?_
  unfold next? Directory.get? at h
  cases hprepared : Directory.find name o.prepared.entries with
  | none =>
      rw [hprepared] at h
      cases h
  | some p => rfl

/-- Where more names are followed than are prepared, some name is met twice. -/
theorem exists_met_twice
    (h : (o.nameAfter (o.prepared.size + 1) name).isSome = true) :
    ∃ m k other, 0 < k ∧ o.nameAfter m name = some other ∧
      o.nameAfter k other = some other := by
  -- the names that are followed are all prepared, and there are too many of
  -- them
  have hprepared (k : Nat) (hk : k ∈ Finset.range (o.prepared.size + 1)) :
      (o.nameAfter k name).getD ""
        ∈ (o.prepared.entries.map Prod.fst).toFinset := by
    have hnext : (o.nameAfter (k + 1) name).isSome = true :=
      nameAfter_isSome_of_le (Finset.mem_range.mp hk) h
    rw [nameAfter_add] at hnext
    cases hat : o.nameAfter k name with
    | none =>
        rw [hat] at hnext
        cases hnext
    | some other =>
        rw [hat] at hnext
        have hother : (o.next? other).isSome = true := by
          cases hlast : o.next? other with
          | none =>
              have hend : o.nameAfter 1 other = none := by
                show (o.next? other).bind _ = none
                rw [hlast]
                rfl
              rw [Option.bind_some, hend] at hnext
              cases hnext
          | some _ => rfl
        exact List.mem_toFinset.mpr (mem_keys_of_next? hother)
  have hfew : (o.prepared.entries.map Prod.fst).toFinset.card
      < (Finset.range (o.prepared.size + 1)).card := by
    have hle := List.toFinset_card_le (o.prepared.entries.map Prod.fst)
    rw [List.length_map] at hle
    rw [Finset.card_range]
    exact Nat.lt_succ_of_le hle
  have htwice {m m' : Nat} (hlt : m < m')
      (hm' : m' ∈ Finset.range (o.prepared.size + 1))
      (hsame : (o.nameAfter m name).getD ""
        = (o.nameAfter m' name).getD "") :
      ∃ m k other, 0 < k ∧ o.nameAfter m name = some other ∧
        o.nameAfter k other = some other := by
    have hle : m' ≤ o.prepared.size + 1 :=
      Nat.le_of_lt (Finset.mem_range.mp hm')
    obtain ⟨first, hfirst⟩ := Option.isSome_iff_exists.mp
      (nameAfter_isSome_of_le (Nat.le_trans (Nat.le_of_lt hlt) hle) h)
    obtain ⟨second, hsecond⟩ :=
      Option.isSome_iff_exists.mp (nameAfter_isSome_of_le hle h)
    obtain rfl : first = second := by rwa [hfirst, hsecond] at hsame
    refine ⟨m, m' - m, first, Nat.sub_pos_of_lt hlt, hfirst, ?_⟩
    rw [← Nat.add_sub_cancel' (Nat.le_of_lt hlt), nameAfter_add,
      hfirst] at hsecond
    exact hsecond
  obtain ⟨m, hm, m', hm', hne, hsame⟩ :=
    Finset.exists_ne_map_eq_of_card_lt_of_maps_to hfew hprepared
  rcases Nat.lt_or_gt_of_ne hne with hlt | hlt
  · exact htwice hlt hm' hsame
  · exact htwice hlt hm hsame.symm

/-- Where more names are followed than are prepared, there is no end of
names. -/
theorem nameAfter_isSome
    (h : (o.nameAfter (o.prepared.size + 1) name).isSome = true) (n : Nat) :
    (o.nameAfter n name).isSome = true := by
  obtain ⟨m, k, other, hk, hm, hround⟩ := exists_met_twice h
  -- the way round can be gone as often as needed
  have hrounds (rounds : Nat) :
      o.nameAfter (rounds * k) other = some other := by
    induction rounds with
    | zero =>
        rw [Nat.zero_mul]
        rfl
    | succ rounds ih =>
        rw [Nat.succ_mul, nameAfter_add, ih]
        exact hround
  refine nameAfter_isSome_of_le (n := m + n * k) ?_ ?_
  · have := Nat.le_mul_of_pos_right n hk
    omega
  · rw [nameAfter_add, hm]
    exact congrArg Option.isSome (hrounds n)

end SessionObjects

-- ==================================================== classes and ends

/-- A class that can be come to is found. -/
theorem level?_of_follow {n : Nat}
    (h : s.logTarget.follow o.prepared n = some level) :
    s.level? o = some level := by
  have hfound : (s.level? o).isSome = true := by
    unfold Statement.level?
    cases htarget : s.logTarget with
    | level c => rfl
    | prepared name =>
        rw [htarget] at h
        by_contra hnone
        rw [Option.not_isSome_iff_eq_none,
          SessionObjects.follow_eq_none] at hnone
        have hmore := (SessionObjects.follow_eq_none o n name).mpr
          (SessionObjects.nameAfter_isSome hnone n)
        rw [hmore] at h
        cases h
  obtain ⟨found, hlevel⟩ := Option.isSome_iff_exists.mp hfound
  -- with names enough for both, both are the same class
  have hmore := LogTarget.follow_mono hlevel (Nat.le_max_left _ n)
  rw [LogTarget.follow_mono h (Nat.le_max_right _ n)] at hmore
  rw [hlevel, hmore]

/-- The class that is found is that of the statement at which looking through
ends. -/
theorem level?_eq_some : s.level? o = some level ↔ s.HasLevel o level := by
  constructor
  · exact hasLevel_of_follow
  · intro h
    obtain ⟨n, hn⟩ := exists_follow h
    exact level?_of_follow hn

/-- Where there is a class, looking through ends. -/
private theorem settles_of_hasLevel (h : s.HasLevel o level) :
    s.Settles o := by
  induction h with
  | own hnone => exact ⟨_, fun t hlooks => absurd hlooks (hnone t)⟩
  | inner hlooks _ ih =>
      refine ⟨_, fun u hu => ?_⟩
      obtain rfl := hlooks.unique hu
      exact ih

/-- Where looking through ends, there is a class. -/
private theorem exists_hasLevel (h : s.Settles o) :
    ∃ level, s.HasLevel o level := by
  induction h with
  | intro s _ ih =>
      by_cases hlooks : ∃ t, s.LooksInto o t
      · obtain ⟨t, hlooks⟩ := hlooks
        obtain ⟨level, ht⟩ := ih t hlooks
        exact ⟨level, .inner hlooks ht⟩
      · exact ⟨s.levelAlone, .own fun t ht => hlooks ⟨t, ht⟩⟩

/-- No class is found exactly where looking through does not end. -/
theorem level?_eq_none : s.level? o = none ↔ ¬ s.Settles o := by
  rw [Option.eq_none_iff_forall_ne_some]
  constructor
  · intro hnone hsettles
    obtain ⟨level, hlevel⟩ := exists_hasLevel hsettles
    exact hnone level (level?_eq_some.mpr hlevel)
  · intro hendless level hlevel
    exact hendless (settles_of_hasLevel (level?_eq_some.mp hlevel))

/-- Whatever class a statement has, it is one that statements have. -/
theorem Statement.HasLevel.isOfStatement (h : s.HasLevel o level) :
    level.IsOfStatement := by
  induction h with
  | @own s hnone =>
      induction s using Statement.look_induction with
      | nowhere s found htarget hof _ =>
          unfold Statement.levelAlone
          rw [htarget]
          exact hof
      | inside s t htarget hlooks ih => exact absurd (hlooks o) (hnone t)
      | execute name into params => exact .inr (.inr rfl)
  | inner _ _ ih => exact ih

/-- A statement for which a class is found is classified. -/
theorem isClassified_of_level? (h : s.level? o = some level) :
    s.IsClassified o := by
  have hlevel := level?_eq_some.mp h
  exact ⟨settles_of_hasLevel hlevel, level, h, hlevel, hlevel.isOfStatement⟩

-- ================================================== tables that change

/-- Looking into fewer statements ends where looking into more does. -/
theorem Statement.Settles.of_fewer (h : s.Settles o)
    (hfewer : ∀ s t : Statement, s.LooksInto o' t → s.LooksInto o t) :
    s.Settles o' :=
  Subrelation.accessible (fun {_ _} hlooks => hfewer _ _ hlooks) h

/-- The table in which a name stands for a statement, and all else as
before. -/
def SessionObjects.prepare (o : SessionObjects) (name : String)
    (query : Statement) : SessionObjects :=
  o.after (.prepare name query)

/-- Looking through is as before, but at the name. -/
theorem looksInto_prepare {query : Statement}
    (h : s.LooksInto (o.prepare name query) t) :
    (t = query ∧ ∃ into params, s = .execute name into params) ∨
    s.LooksInto o t := by
  cases h with
  | prepare other => exact .inr (.prepare other _)
  | explain verbose => exact .inr (.explain verbose _)
  | @execute other p into params hprepared =>
      have hget :
          (o.prepared.insert name ⟨query, SessionObjects.selects query⟩).get?
              other
            = some p := hprepared
      rw [Directory.get?_insert] at hget
      split at hget
      next heq =>
        obtain rfl := Option.some.inj hget
        exact .inl ⟨rfl, into, params, by rw [heq]⟩
      next => exact .inr (.execute into params hget)

/-- If looking through ended before, and does not come from the new statement
to its own name, then it still ends everywhere. -/
theorem settles_prepare {query : Statement}
    (hall : ∀ s : Statement, s.Settles o) (hfree : ¬ query.Reaches o name)
    (s : Statement) : s.Settles (o.prepare name query) := by
  have hquery : query.Settles (o.prepare name query) := by
    -- along the old table, where the name is not come to
    have hpath (t : Statement) (hsettles : t.Settles o)
        (ht : ¬ t.Reaches o name) :
        t.Settles (o.prepare name query) := by
      induction hsettles with
      | intro t _ ih =>
          refine ⟨_, fun u hu => ?_⟩
          rcases looksInto_prepare hu with ⟨-, into, params, rfl⟩ | hold
          · exact absurd ⟨into, params, .refl⟩ ht
          · refine ih u hold fun hreaches => ht ?_
            obtain ⟨into, params, hrest⟩ := hreaches
            exact ⟨into, params, .head hold hrest⟩
    exact hpath query (hall query) hfree
  induction hall s with
  | intro s _ ih =>
      refine ⟨_, fun t ht => ?_⟩
      rcases looksInto_prepare ht with ⟨rfl, -⟩ | hold
      · exact hquery
      · exact ih t hold

/-- An execution of the name looks into the new statement. -/
private theorem looksInto_prepared (query : Statement)
    (into : Option QualifiedName) (params : List Json.Whole) :
    (Statement.execute name into params).LooksInto
      (o.prepare name query) query := by
  refine .execute (p := ⟨query, SessionObjects.selects query⟩) into params ?_
  show (o.prepared.insert name _).get? name = _
  rw [Directory.get?_insert, if_pos rfl]

/-- What was looked into before still is, but for executions of the name. -/
theorem looksInto_prepare_of_ne {query : Statement} (h : s.LooksInto o t)
    (hne : ∀ into params, s ≠ .execute name into params) :
    s.LooksInto (o.prepare name query) t := by
  cases h with
  | prepare other => exact .prepare other _
  | explain verbose => exact .explain verbose _
  | @execute other p into params hprepared =>
      refine .execute into params ?_
      show (o.prepared.insert name _).get? other = _
      rw [Directory.get?_insert, if_neg fun heq =>
        hne into params (by rw [heq])]
      exact hprepared

/-- If looking through comes from the new statement to its own name, executing
the name never ends. -/
theorem not_settles_of_reaches {query : Statement} (h : query.Reaches o name)
    (into : Option QualifiedName) (params : List Json.Whole) :
    ¬ (Statement.execute name into params).Settles (o.prepare name query) := by
  have hnever (t : Statement) (hsettles : t.Settles (o.prepare name query))
      (ht : t.Reaches o name) : False := by
    induction hsettles with
    | intro t _ ih =>
        by_cases hname : ∃ into params, t = .execute name into params
        · -- round once more
          obtain ⟨into, params, rfl⟩ := hname
          exact ih query (looksInto_prepared query into params) h
        · have hne (into : Option QualifiedName) (params : List Json.Whole) :
              t ≠ .execute name into params := by
            intro heq
            exact hname ⟨into, params, heq⟩
          obtain ⟨into, params, hpath⟩ := ht
          cases hpath using Relation.ReflTransGen.head_induction_on with
          | refl => exact hne into params rfl
          | head hlooks hrest =>
              exact ih _ (looksInto_prepare_of_ne hlooks hne)
                ⟨into, params, hrest⟩
  exact fun hsettles => hnever _ hsettles ⟨into, params, .refl⟩

end ClusterUtility
