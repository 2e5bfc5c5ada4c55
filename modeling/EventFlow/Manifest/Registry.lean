/-!
# Registries

What a manifest declares under names, in the order of declaration. Declaring a name again replaces
what it stands for and keeps its place, so no name occurs twice.
-/

namespace EventFlow

/-- Values under distinct names, in order. -/
structure Registry (α : Type) where
  entries : List (String × α) := []
  nodup : (entries.map (·.1)).Nodup := by simp
  deriving Repr

namespace Registry

variable {α : Type}

/-- Puts a value under a name, in place of an earlier one or at the end. -/
def insertEntry (id : String) (value : α) : List (String × α) → List (String × α)
  | [] => [(id, value)]
  | entry :: entries =>
    if entry.1 = id then (id, value) :: entries else entry :: insertEntry id value entries

theorem mem_ids_insertEntry {id x : String} {value : α} {entries : List (String × α)} :
    x ∈ (insertEntry id value entries).map (·.1) ↔ x = id ∨ x ∈ entries.map (·.1) := by
  induction entries with
  | nil => simp [insertEntry]
  | cons entry entries ih =>
    rw [insertEntry]
    split
    · next h => simp [h]
    · simp only [List.map_cons, List.mem_cons, ih]
      grind

theorem nodup_insertEntry {id : String} {value : α} {entries : List (String × α)}
    (h : (entries.map (·.1)).Nodup) : ((insertEntry id value entries).map (·.1)).Nodup := by
  induction entries with
  | nil => simp [insertEntry]
  | cons entry entries ih =>
    rw [List.map_cons, List.nodup_cons] at h
    rw [insertEntry]
    split
    · next he => simpa [← he] using h
    · next hne =>
      rw [List.map_cons, List.nodup_cons, mem_ids_insertEntry]
      exact ⟨fun hmem => hmem.elim hne h.1, ih h.2⟩

/-- Declares a name. -/
def insert (id : String) (value : α) (r : Registry α) : Registry α :=
  ⟨insertEntry id value r.entries, nodup_insertEntry r.nodup⟩

/-- The registry of some declarations, in order. -/
def ofList (entries : List (String × α)) : Registry α :=
  entries.foldl (fun r entry => r.insert entry.1 entry.2) {}

/-- What a name stands for. -/
def get? (r : Registry α) (id : String) : Option α :=
  (r.entries.find? (·.1 == id)).map (·.2)

/-- Whether a name is declared. -/
def contains (r : Registry α) (id : String) : Bool :=
  (r.get? id).isSome

/-- The declared names, in order. -/
def ids (r : Registry α) : List String :=
  r.entries.map (·.1)

end Registry

end EventFlow
