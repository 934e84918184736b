/-
Sets of nodes, kept as strictly ascending lists.

Names are compared character by character, so the list of a set is in the
order that its nodes are reported in, and a set has one list only.
-/
import ClusterUtility.Topology

namespace ClusterUtility

/-- A set of nodes. -/
structure NodeSet where
  nodes : List Node
  ascending : nodes.Pairwise (· < ·)
deriving DecidableEq

namespace NodeSet

/-- Puts a node into its place in an ascending list. -/
def place (node : Node) : List Node → List Node
  | [] => [node]
  | n :: rest =>
      if node < n then node :: n :: rest
      else if n = node then n :: rest
      else n :: place node rest

theorem mem_place {node other : Node} {nodes : List Node} :
    other ∈ place node nodes ↔ other = node ∨ other ∈ nodes := by
  induction nodes with
  | nil => simp [place]
  | cons n rest ih =>
      unfold place
      split
      · simp
      · split
        · next h => subst h; simp
        · simp only [List.mem_cons, ih]
          grind

theorem pairwise_place {node : Node} {nodes : List Node}
    (h : nodes.Pairwise (· < ·)) :
    (place node nodes).Pairwise (· < ·) := by
  induction nodes with
  | nil => simp [place]
  | cons n rest ih =>
      obtain ⟨hn, hrest⟩ := List.pairwise_cons.mp h
      unfold place
      split
      · next hlt =>
          refine List.pairwise_cons.mpr ⟨fun m hm => ?_, h⟩
          rcases List.mem_cons.mp hm with rfl | hm
          · exact hlt
          · exact String.lt_trans hlt (hn m hm)
      · split
        · exact h
        · next hlt hne =>
            refine List.pairwise_cons.mpr ⟨fun m hm => ?_, ih hrest⟩
            rcases mem_place.mp hm with rfl | hm
            · grind
            · exact hn m hm

/-- The set without nodes. -/
def empty : NodeSet := ⟨[], List.Pairwise.nil⟩

instance : EmptyCollection NodeSet := ⟨empty⟩

instance : Inhabited NodeSet := ⟨empty⟩

instance : Membership Node NodeSet := ⟨fun s node => node ∈ s.nodes⟩

instance (node : Node) (s : NodeSet) : Decidable (node ∈ s) :=
  inferInstanceAs (Decidable (node ∈ s.nodes))

/-- Adds a node. -/
def insert (s : NodeSet) (node : Node) : NodeSet :=
  ⟨place node s.nodes, pairwise_place s.ascending⟩

/-- Adds every node of a list. -/
def insertAll (s : NodeSet) (nodes : List Node) : NodeSet :=
  nodes.foldl insert s

/-- Takes a node out. -/
def erase (s : NodeSet) (node : Node) : NodeSet :=
  ⟨s.nodes.filter fun n => n ≠ node, s.ascending.filter _⟩

/-- Whether the set has no nodes. -/
def isEmpty (s : NodeSet) : Bool := s.nodes.isEmpty

-- ====================================================== the view

theorem mem_def {s : NodeSet} {node : Node} :
    node ∈ s ↔ node ∈ s.nodes := Iff.rfl

@[simp] theorem not_mem_empty {node : Node} : ¬ node ∈ (∅ : NodeSet) := by
  intro h
  exact absurd (mem_def.mp h) List.not_mem_nil

/-- A node is in the set after an addition iff it was added or there before. -/
@[simp] theorem mem_insert {s : NodeSet} {node other : Node} :
    other ∈ s.insert node ↔ other = node ∨ other ∈ s :=
  mem_place

@[simp] theorem mem_insertAll {s : NodeSet} {nodes : List Node}
    {other : Node} :
    other ∈ s.insertAll nodes ↔ other ∈ nodes ∨ other ∈ s := by
  induction nodes generalizing s with
  | nil => simp [insertAll]
  | cons n rest ih =>
      show other ∈ (s.insert n).insertAll rest ↔ _
      rw [ih, mem_insert, List.mem_cons]
      grind

/-- A node is in the set after a removal iff it was there and is another
one. -/
@[simp] theorem mem_erase {s : NodeSet} {node other : Node} :
    other ∈ s.erase node ↔ other ∈ s ∧ other ≠ node := by
  show other ∈ s.nodes.filter _ ↔ _
  simp [mem_def]

end NodeSet

end ClusterUtility
