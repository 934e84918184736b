/-
The savepoints of a block are a stack, and work inside a savepoint nests.

SAVEPOINT puts a savepoint on top of the others. RELEASE and ROLLBACK TO look
for the newest savepoint of a name: the one takes it off with all that lie
above it, the other only those. A name may be there more than once, so what
counts is that no savepoint of the name lies above (`savepointsTo?_newest`).

# What lies under a mark

A savepoint is a mark on the stack, and what was set before lies below it.
Commands about other savepoints, none of which lies below the mark, find what
they look for above the mark or not at all. So the mark and all below it stay
(`marked_command`), however many such commands are issued and whether they
fail (`marked_issue`).
-/
import ClusterUtility.Proofs.Cluster.Perform
import ClusterUtility.Transaction.TwoPhase

namespace ClusterUtility

/-- The savepoint that a command sets, forgets or goes back to. -/
def TransactionCommand.savepoint? : TransactionCommand → Option String
  | .savepoint name => some name
  | .release name => some name
  | .rollbackTo name => some name
  | _ => none

namespace Cluster

variable {c : Cluster} {name other : String}
  {below lower upper savepoints : List String}

-- ====================================== the newest savepoint of a name

/-- There is no newest savepoint of a name that no savepoint has. -/
private theorem savepointsTo?_absent (h : name ∉ savepoints) :
    savepointsTo? name savepoints = none := by
  induction savepoints with
  | nil => rfl
  | cons s rest ih =>
      obtain ⟨hs, hrest⟩ := List.ne_and_not_mem_of_not_mem_cons h
      rw [savepointsTo?, ih hrest]
      exact if_neg (Ne.symm hs)

/-- The newest savepoint of a name is kept with all that lie below it. -/
theorem savepointsTo?_newest (h : name ∉ upper) (lower : List String) :
    savepointsTo? name (lower ++ name :: upper) = some (lower ++ [name]) := by
  induction lower with
  | nil =>
      rw [List.nil_append, savepointsTo?, savepointsTo?_absent h]
      exact if_pos rfl
  | cons s rest ih =>
      rw [List.cons_append, savepointsTo?, ih, List.cons_append]

/-- Of the savepoints of a name, one is the newest. -/
theorem exists_newest (h : name ∈ savepoints) :
    ∃ lower upper, savepoints = lower ++ name :: upper ∧ name ∉ upper := by
  obtain ⟨upper, lower, hsplit, hnew⟩ :=
    List.eq_append_cons_of_mem (List.mem_reverse.mpr h)
  refine ⟨lower.reverse, upper.reverse, ?_,
    fun hmem => hnew (List.mem_reverse.mp hmem)⟩
  rw [← List.reverse_reverse savepoints, hsplit]
  simp

-- ====================================================== the commands

/-- RELEASE of a savepoint that is not there fails and does nothing. -/
private theorem releaseSavepoint_absent (h : name ∉ c.session.savepoints) :
    c.releaseSavepoint name = (.error (noSavepoint name), c) := by
  unfold releaseSavepoint
  rw [savepointsTo?_absent h]

/-- RELEASE takes the newest savepoint of the name off, with all above it. -/
private theorem releaseSavepoint_newest
    (h : c.session.savepoints = lower ++ name :: upper) (hnew : name ∉ upper) :
    c.releaseSavepoint name
      = (.ok (), c.mapSession fun s => { s with savepoints := lower }) := by
  unfold releaseSavepoint
  rw [h, savepointsTo?_newest hnew]
  simp only [List.dropLast_concat]

/-- ROLLBACK TO a savepoint that is not there fails and does nothing. -/
private theorem rollbackToSavepoint_absent (h : name ∉ c.session.savepoints) :
    c.rollbackToSavepoint name = (.error (noSavepoint name), c) := by
  unfold rollbackToSavepoint
  rw [savepointsTo?_absent h]

/-- ROLLBACK TO takes off what lies above the newest savepoint of the name, and
the block is no longer failed. -/
private theorem rollbackToSavepoint_newest
    (h : c.session.savepoints = lower ++ name :: upper) (hnew : name ∉ upper) :
    c.rollbackToSavepoint name
      = (.ok (), c.mapSession fun s =>
          { s with savepoints := lower ++ [name], failed := false }) := by
  unfold rollbackToSavepoint
  rw [h, savepointsTo?_newest hnew]

section run

variable (c) (name) (context : Context)

/-- A command that only passes a reply on ends as the reply says. -/
theorem perform_ofReply (reply : Except Failure Unit) :
    c.perform (Program.bind (Program.ofReply reply) fun _ =>
        .done (none : TagOverride))
      = (reply.map fun _ => none, c) := by
  cases reply <;> rfl

private theorem perform_savepoint :
    c.perform ((TransactionCommand.savepoint name).run context)
      = (.ok none, c.defineSavepoint name) := rfl

/-- What RELEASE does to a cluster. -/
private theorem perform_release :
    c.perform ((TransactionCommand.release name).run context)
      = ((c.releaseSavepoint name).1.map fun _ => none,
        (c.releaseSavepoint name).2) :=
  perform_ofReply ..

/-- What ROLLBACK TO does to a cluster. -/
private theorem perform_rollbackTo :
    c.perform ((TransactionCommand.rollbackTo name).run context)
      = ((c.rollbackToSavepoint name).1.map fun _ => none,
        (c.rollbackToSavepoint name).2) :=
  perform_ofReply ..

end run

-- ============================================== what lies under a mark

/-- The newest savepoint of a name is a mark right above some others. -/
def Marked (below : List String) (name : String) (c : Cluster) : Prop :=
  ∃ above, c.session.savepoints = below ++ name :: above ∧ name ∉ above

/-- A savepoint that was just set is a mark on all that were there. -/
private theorem marked_defineSavepoint (c : Cluster) (name : String) :
    Marked c.session.savepoints name (c.defineSavepoint name) :=
  ⟨[], rfl, List.not_mem_nil⟩

/-- Where a savepoint is neither the mark nor below it, its newest lies above
the mark, if there is one at all. -/
theorem Marked.cases_of_other (h : Marked below name c) (hother : other ≠ name)
    (hbelow : other ∉ below) :
    other ∉ c.session.savepoints ∨
      ∃ lower upper,
        c.session.savepoints = (below ++ name :: lower) ++ other :: upper ∧
        other ∉ upper ∧ name ∉ lower := by
  obtain ⟨above, hsavepoints, hmark⟩ := h
  by_cases habove : other ∈ above
  · obtain ⟨lower, upper, rfl, hnew⟩ := exists_newest habove
    refine .inr ⟨lower, upper, ?_, hnew,
      fun hmem => hmark (List.mem_append_left _ hmem)⟩
    rw [hsavepoints, List.append_assoc, List.cons_append]
  · refine .inl fun hmem => ?_
    rw [hsavepoints] at hmem
    rcases List.mem_append.mp hmem with hmem | hmem
    · exact hbelow hmem
    · exact (List.mem_cons.mp hmem).elim hother habove

/-- A command about another savepoint, which does not lie below the mark, keeps
the mark. -/
theorem marked_command (h : Marked below name c) {command : TransactionCommand}
    (habout : command.savepoint? = some other) (hother : other ≠ name)
    (hbelow : other ∉ below) (context : Context) :
    Marked below name (c.perform (command.run context)).2 := by
  cases command with
  | savepoint named =>
      obtain rfl : named = other := Option.some.inj habout
      obtain ⟨above, hsavepoints, hmark⟩ := h
      refine ⟨above ++ [named], ?_, ?_⟩
      · show c.session.savepoints ++ [named] = _
        rw [hsavepoints, List.append_assoc, List.cons_append]
      · rw [List.mem_append, List.mem_singleton]
        exact fun hmem => hmem.elim hmark fun heq => hother heq.symm
  | release named =>
      obtain rfl : named = other := Option.some.inj habout
      rw [perform_release]
      rcases h.cases_of_other hother hbelow with
        habsent | ⟨lower, upper, hsplit, hnew, hmark⟩
      · rw [releaseSavepoint_absent habsent]
        exact h
      · rw [releaseSavepoint_newest hsplit hnew]
        exact ⟨lower, rfl, hmark⟩
  | rollbackTo named =>
      obtain rfl : named = other := Option.some.inj habout
      rw [perform_rollbackTo]
      rcases h.cases_of_other hother hbelow with
        habsent | ⟨lower, upper, hsplit, hnew, hmark⟩
      · rw [rollbackToSavepoint_absent habsent]
        exact h
      · rw [rollbackToSavepoint_newest hsplit hnew]
        refine ⟨lower ++ [named], List.append_assoc .., ?_⟩
        rw [List.mem_append, List.mem_singleton]
        exact fun hmem => hmem.elim hmark fun heq => hother heq.symm
  | _ => cases habout

/-- The cluster after commands that are issued one after another; one that
fails is followed by the next. -/
def issue (c : Cluster) (commands : List (Context × TransactionCommand)) :
    Cluster :=
  commands.foldl (fun d issued => (d.perform (issued.2.run issued.1)).2) c

/-- All commands about other savepoints keep the mark. -/
theorem marked_issue (h : Marked below name c)
    {commands : List (Context × TransactionCommand)}
    (hcommands : ∀ issued ∈ commands,
      ∃ other, issued.2.savepoint? = some other ∧ other ≠ name ∧
        other ∉ below) :
    Marked below name (c.issue commands) := by
  induction commands generalizing c with
  | nil => exact h
  | cons issued rest ih =>
      obtain ⟨other, habout, hother, hbelow⟩ :=
        hcommands issued (List.mem_cons_self ..)
      exact ih (marked_command h habout hother hbelow issued.1)
        fun later hlater => hcommands later (List.mem_cons_of_mem _ hlater)

-- ====================================================== nesting

/-- Whatever is done about other savepoints after SAVEPOINT, RELEASE leaves the
stack as it was before, and ROLLBACK TO the savepoint itself on top of that, in
a block that is no longer failed. Where there is no savepoint of the name, both
fail and do nothing. -/
theorem savepoints_nest :
    (∀ (c : Cluster) (name : String)
      (commands : List (Context × TransactionCommand)) (first last : Context),
      (∀ issued ∈ commands, ∃ other, issued.2.savepoint? = some other ∧
        other ≠ name ∧ other ∉ c.session.savepoints) →
      ∃ marked,
        c.perform ((TransactionCommand.savepoint name).run first)
          = (.ok none, marked) ∧
        (∃ released,
          (marked.issue commands).perform
              ((TransactionCommand.release name).run last)
            = (.ok none, released) ∧
          released.session.savepoints = c.session.savepoints) ∧
        ∃ returned,
          (marked.issue commands).perform
              ((TransactionCommand.rollbackTo name).run last)
            = (.ok none, returned) ∧
          returned.session.savepoints = c.session.savepoints ++ [name] ∧
          returned.session.failed = false) ∧
    ∀ (c : Cluster) (name : String) (context : Context),
      name ∉ c.session.savepoints →
      c.perform ((TransactionCommand.release name).run context)
        = (.error (noSavepoint name), c) ∧
      c.perform ((TransactionCommand.rollbackTo name).run context)
        = (.error (noSavepoint name), c) := by
  refine ⟨fun c name commands first last hcommands => ?_,
    fun c name context habsent => ⟨?_, ?_⟩⟩
  · obtain ⟨above, hsplit, hnew⟩ :=
      marked_issue (marked_defineSavepoint c name) hcommands
    refine ⟨_, perform_savepoint c name first, ?_, ?_⟩
    · rw [perform_release, releaseSavepoint_newest hsplit hnew]
      exact ⟨_, rfl, rfl⟩
    · rw [perform_rollbackTo, rollbackToSavepoint_newest hsplit hnew]
      exact ⟨_, rfl, rfl, rfl⟩
  · rw [perform_release, releaseSavepoint_absent habsent]
    rfl
  · rw [perform_rollbackTo, rollbackToSavepoint_absent habsent]
    rfl

/-- A failed block with two savepoints. -/
def failedInSavepoints : Cluster :=
  (fresh .standard "").mapSession fun s =>
    { s with inBlock := true, failed := true, savepoints := ["a", "n"] }

/-- Commands of a client about two savepoints, one of which is gone before it
is gone back to. -/
def otherSavepoints : List (Context × TransactionCommand) :=
  [.savepoint "b", .savepoint "c", .savepoint "b", .release "c",
    .rollbackTo "c", .rollbackTo "b"].map fun command =>
      (.topLevel .coordinator, command)

/-- Whatever happened above it, and though the block was failed, the savepoint
of a name that was there before is gone back to. -/
theorem savepoints_nest_failedBlock :
    (∀ issued ∈ otherSavepoints, ∃ other, issued.2.savepoint? = some other ∧
      other ≠ "n" ∧ other ∉ failedInSavepoints.session.savepoints) ∧
    (∃ returned,
      ((failedInSavepoints.defineSavepoint "n").issue otherSavepoints).perform
          ((TransactionCommand.rollbackTo "n").run (.routed .coordinator))
        = (.ok none, returned) ∧
      returned.session.savepoints = ["a", "n", "n"] ∧
      returned.session.failed = false) ∧
    "b" ∉ failedInSavepoints.session.savepoints ∧
    failedInSavepoints.perform
        ((TransactionCommand.release "b").run (.topLevel .coordinator))
      = (.error (noSavepoint "b"), failedInSavepoints) := by
  have hothers : ∀ issued ∈ otherSavepoints,
      ∃ other, issued.2.savepoint? = some other ∧ other ≠ "n" ∧
        other ∉ failedInSavepoints.session.savepoints := by
    intro issued hissued
    obtain ⟨command, hcommand, rfl⟩ := List.mem_map.mp hissued
    simp only [List.mem_cons, List.not_mem_nil, or_false] at hcommand
    rcases hcommand with rfl | rfl | rfl | rfl | rfl | rfl <;>
      exact ⟨_, rfl, by decide, by decide⟩
  obtain ⟨hnest, habsent⟩ := savepoints_nest
  have hmissing : "b" ∉ failedInSavepoints.session.savepoints := by decide
  refine ⟨hothers, ?_, hmissing, (habsent _ _ _ hmissing).1⟩
  obtain ⟨marked, hmarked, -, hreturned⟩ :=
    hnest _ "n" _ (.topLevel .coordinator) (.routed .coordinator) hothers
  obtain rfl : failedInSavepoints.defineSavepoint "n" = marked :=
    (Prod.mk.inj hmarked).2
  exact hreturned

end Cluster

end ClusterUtility
