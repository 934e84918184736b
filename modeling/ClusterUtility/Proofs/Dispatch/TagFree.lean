/-
Who says something about the completion tag.

A dispatch tells a client many things, but the tag is told by few parts of it:
it is cleared at the start, and it is written by the local run of a transaction
command, of FETCH, MOVE and COPY, and of BARRIER. All of these look first
whether anyone waits for a tag. The statements of an expansion are dispatched
with nobody waiting, so whatever they are, at any depth, they leave the tag of
the statement they come from alone (`tagFree_dispatch`).
-/
import ClusterUtility.Proofs.Dispatch.Tells

namespace ClusterUtility

open Program (Silent Tells)

variable {α σ : Type}

-- =================================================== tag-free programs

namespace Program

/-- On every path nothing is told about the tag. -/
def TagFree (p : Program α) : Prop :=
  p.Tells fun n => n.isOfTag = false

theorem Silent.tagFree {p : Program α} (h : p.Silent) : p.TagFree := h.tells

/-- None of the notes of a run is about the tag. -/
theorem TagFree.notes {p : Program α} (h : p.TagFree) (answer : Answers σ)
    (w : σ) : ∀ n ∈ (run answer p w).notes, n.isOfTag = false :=
  Tells.notes h answer w

end Program

open Program (TagFree)

-- ==================================================== parts and wholes

variable {call : Call} {nested : Statement → Program Unit}

/-- The rows of a handler are all that it tells. -/
theorem tagFree_runHandler (call : Call) : call.runHandler.TagFree :=
  tells_runHandler (fun _ => rfl) call

/-- What is left of a call that is let through says nothing about the tag, if
its statement does not write the tag, or nobody waits for it. -/
theorem tagFree_carrying (hnested : ∀ s, (nested s).TagFree)
    (htag : call.statement.writesTag = true → call.hasTag = false)
    (topology : Topology) : (do
      let plan ← planCall call
      propagateAt topology call.text plan .beforeLocal
      runLocally topology nested call
      propagateAt topology call.text plan .afterLocal).TagFree := by
  refine tells_carrying (fun _ => rfl) hnested ?_ topology
  intro hwrites hwaits
  rw [htag hwrites] at hwaits
  cases hwaits

/-- The dispatch of a call for whose tag nobody waits says nothing about the
tag. -/
theorem tagFree_dispatch (config : Configuration) (i : Interceptor)
    (htag : call.hasTag = false) : (dispatch config i call).TagFree := by
  induction call using dispatch_induction config with
  | h call ih =>
      have hclears : call.hasTag ≠ true := by simp [htag]
      refine dispatch_of_process (fun _ => trivial)
        (fun htag' => absurd htag' hclears) (fun _ hp => ⟨rfl, hp⟩)
        fun hdepth => ?_
      have hcarried := tagFree_carrying (fun s => ih hdepth s rfl)
        (fun _ => htag) config.topology
      have hrest := (silent_passGate config call).tells.bind fun _ => hcarried
      refine (silent_classify call.statement).tells.bind fun level => ?_
      dsimp only
      split
      · exact ⟨rfl, hrest⟩
      · exact hrest

end ClusterUtility
