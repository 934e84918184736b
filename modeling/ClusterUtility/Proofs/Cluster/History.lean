/-
What no answer of a cluster takes back.

Whatever is asked of a cluster, its journal only grows, and what is set to
fail stays set to fail: faults come and go between dispatches, never within
one. `Cluster.Onward` says both of two clusters, and holds across every
answer (`onward_answer`).

What was done since some moment can also be counted: `Cluster.times` says how
often an entry stands in the journal.
-/
import ClusterUtility.Proofs.Cluster.Answer

namespace ClusterUtility.Cluster

-- ====================================================== counting

/-- How often an entry stands in the journal. -/
def times (c : Cluster) (event : Event) : Nat := c.journal.count event

/-- One more entry is counted where it is asked for. -/
theorem times_record (c : Cluster) (event other : Event) :
    (c.record event).times other
      = c.times other + if event = other then 1 else 0 := by
  unfold times record
  rw [List.count_append, List.count_singleton]
  simp only [beq_iff_eq]

/-- What a cluster counts more than an earlier one is what was added. -/
theorem count_added {c d : Cluster} {events : List Event} {event : Event}
    {n : Nat} (hjournal : d.journal = c.journal ++ events)
    (htimes : d.times event = c.times event + n) : events.count event = n := by
  unfold times at htimes
  rw [hjournal, List.count_append] at htimes
  exact Nat.add_left_cancel htimes

-- ====================================================== onward

/-- The second cluster comes after the first one, with the same faults. -/
structure Onward (c d : Cluster) : Prop where
  faults : d.faults = c.faults
  journal : c.journal <+: d.journal

namespace Onward

variable {c d e : Cluster}

theorem refl (c : Cluster) : Onward c c := ⟨rfl, List.prefix_refl _⟩

theorem trans (h : Onward c d) (h' : Onward d e) : Onward c e :=
  ⟨h'.faults.trans h.faults, h.journal.trans h'.journal⟩

end Onward

/-- Every answer leads onward. -/
theorem onward_answer (r : Request) (c : Cluster) :
    Onward c (answer r c).2 where
  faults := (answered_answer r c).faults
  journal := by
    rcases (answered_answer r c).journal with hj | ⟨event, _, hj⟩
    · simp only [hj, List.prefix_refl]
    · rw [hj]
      exact List.prefix_append _ _

end ClusterUtility.Cluster
