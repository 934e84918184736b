/-
Directories: finite maps whose entries keep the order in which their keys
came in.

A directory is a list of entries, of which the first with a key counts. The
view of a directory is `get?`; each operation is described by what it does to
that view.
-/

namespace ClusterUtility

/-- A finite map from keys to values. -/
structure Directory (κ α : Type) where
  entries : List (κ × α)
deriving DecidableEq, Repr

namespace Directory

variable {κ α : Type} [DecidableEq κ]

/-- A directory without entries. -/
def empty : Directory κ α := ⟨[]⟩

instance : EmptyCollection (Directory κ α) := ⟨empty⟩

instance : Inhabited (Directory κ α) := ⟨empty⟩

/-- The number of entries. -/
def size (d : Directory κ α) : Nat := d.entries.length

/-- The value of the first entry with a key. -/
def find (key : κ) : List (κ × α) → Option α
  | [] => none
  | (k, a) :: rest => if k = key then some a else find key rest

/-- The value under a key. -/
def get? (d : Directory κ α) (key : κ) : Option α :=
  find key d.entries

/-- Whether there is a value under a key. -/
def contains (d : Directory κ α) (key : κ) : Bool :=
  (d.get? key).isSome

/-- Replaces the value of the first entry with a key, or adds an entry. -/
def put (key : κ) (value : α) : List (κ × α) → List (κ × α)
  | [] => [(key, value)]
  | (k, a) :: rest =>
      if k = key then (k, value) :: rest else (k, a) :: put key value rest

/-- Puts a value under a key. -/
def insert (d : Directory κ α) (key : κ) (value : α) : Directory κ α :=
  ⟨put key value d.entries⟩

/-- Takes a key out. -/
def erase (d : Directory κ α) (key : κ) : Directory κ α :=
  ⟨d.entries.filter fun entry => entry.1 ≠ key⟩

/-- Changes the value under a key, if there is one. -/
def modify (d : Directory κ α) (key : κ) (change : α → α) : Directory κ α :=
  match d.get? key with
  | none => d
  | some a => d.insert key (change a)

/-- The directory of a list of entries, a later one taking the place of an
earlier one. -/
def ofList (entries : List (κ × α)) : Directory κ α :=
  entries.foldl (fun d entry => d.insert entry.1 entry.2) empty

-- ====================================================== the view

@[simp] theorem get?_empty (key : κ) :
    (∅ : Directory κ α).get? key = none := rfl

theorem find_put (key other : κ) (value : α) (entries : List (κ × α)) :
    find other (put key value entries)
      = if key = other then some value else find other entries := by
  induction entries with
  | nil => simp [put, find]
  | cons entry rest ih =>
      obtain ⟨k, a⟩ := entry
      by_cases hk : k = key
      · subst hk
        by_cases ho : k = other <;> simp [put, find, ho]
      · by_cases ho : key = other
        · subst ho
          simpa [put, find, hk] using ih
        · by_cases hko : k = other
          · subst hko
            simp [put, find, hk, ho]
          · simp [put, find, hk, hko, ih, ho]

/-- Putting a value changes the view at its key and nowhere else. -/
@[simp] theorem get?_insert (d : Directory κ α) (key other : κ) (value : α) :
    (d.insert key value).get? other = if key = other then some value
      else d.get? other :=
  find_put key other value d.entries

theorem find_filter_ne (key other : κ) (entries : List (κ × α)) :
    find other (entries.filter fun entry => entry.1 ≠ key)
      = if key = other then none else find other entries := by
  induction entries with
  | nil => simp [find]
  | cons entry rest ih =>
      obtain ⟨k, a⟩ := entry
      by_cases hk : k = key
      · subst hk
        by_cases ho : k = other
        · subst ho
          simpa [find] using ih
        · simpa [find, ho] using ih
      · by_cases ho : k = other
        · subst ho
          have hne : ¬ key = k := fun h => hk h.symm
          simp [find, hk, hne]
        · simpa [find, hk, ho] using ih

/-- Taking a key out changes the view at that key and nowhere else. -/
@[simp] theorem get?_erase (d : Directory κ α) (key other : κ) :
    (d.erase key).get? other = if key = other then none else d.get? other :=
  find_filter_ne key other d.entries

/-- Changing a value changes the view at its key and nowhere else. -/
@[simp] theorem get?_modify (d : Directory κ α) (key other : κ)
    (change : α → α) :
    (d.modify key change).get? other
      = if key = other then (d.get? other).map change else d.get? other := by
  unfold modify
  by_cases h : key = other
  · subst h
    cases hget : d.get? key <;> simp [hget]
  · cases hget : d.get? key <;> simp [h]

end Directory

end ClusterUtility
