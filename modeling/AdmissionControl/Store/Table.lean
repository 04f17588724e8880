/-!
# Finite tables

A finite table holds at most one entry per key. The view of a table is `Table.get?`; each operation
is described by what it does to the view.
-/

namespace AdmissionControl

/-- A finite table with at most one entry per key. -/
structure Table (Key Entry : Type) where
  /-- The keys with their entries, in no particular order. -/
  entries : List (Key × Entry)
  /-- No key has two entries. -/
  distinct : (entries.map Prod.fst).Nodup

namespace Table

variable {Key Entry : Type}

def empty : Table Key Entry := ⟨[], List.nodup_nil⟩

variable [DecidableEq Key]

def get? (table : Table Key Entry) (key : Key) : Option Entry :=
  table.entries.lookup key

def size (table : Table Key Entry) : Nat :=
  table.entries.length

def filter (table : Table Key Entry) (keep : Key → Entry → Bool) : Table Key Entry :=
  ⟨table.entries.filter fun pair => keep pair.1 pair.2,
    table.distinct.sublist (List.filter_sublist.map Prod.fst)⟩

def erase (table : Table Key Entry) (key : Key) : Table Key Entry :=
  table.filter fun other _ => other ≠ key

/-- The table with a new entry in place of any earlier one of the key. -/
def insert (table : Table Key Entry) (key : Key) (entry : Entry) : Table Key Entry :=
  ⟨(key, entry) :: (table.erase key).entries, by
    refine List.nodup_cons.mpr ⟨?_, (table.erase key).distinct⟩
    simp [erase, filter]⟩

def retain (table : Table Key Entry) (keep : Entry → Bool) : Table Key Entry :=
  table.filter fun _ entry => keep entry

@[simp]
theorem get?_empty (key : Key) : (empty : Table Key Entry).get? key = none := rfl

private theorem lookup_eq_none_of_not_mem {key : Key} :
    {entries : List (Key × Entry)} → key ∉ entries.map Prod.fst → entries.lookup key = none
  | [], _ => rfl
  | (other, _) :: rest, absent => by
      simp only [List.map_cons, List.mem_cons, not_or] at absent
      have differs : (key == other) = false := by simpa using absent.1
      simpa [List.lookup_cons, differs] using lookup_eq_none_of_not_mem absent.2

private theorem lookup_filter {key : Key} (keep : Key → Entry → Bool) :
    {entries : List (Key × Entry)} → (entries.map Prod.fst).Nodup →
      (entries.filter fun pair => keep pair.1 pair.2).lookup key =
        (entries.lookup key).filter (keep key)
  | [], _ => rfl
  | (other, entry) :: rest, distinct => by
      simp only [List.map_cons, List.nodup_cons] at distinct
      have inner :
          (rest.filter fun pair => keep pair.1 pair.2).lookup key =
            (rest.lookup key).filter (keep key) :=
        lookup_filter keep distinct.2
      by_cases same : key = other
      · subst same
        have gone : rest.lookup key = none := lookup_eq_none_of_not_mem distinct.1
        by_cases kept : keep key entry
        · simp [kept, Option.filter_some]
        · simp [kept, inner, gone, Option.filter_some]
      · have differs : (key == other) = false := by simpa using same
        by_cases kept : keep other entry
        · simp [List.lookup_cons, kept, differs, inner]
        · simp [List.lookup_cons, kept, differs, inner]

@[simp]
theorem get?_filter (table : Table Key Entry) (keep : Key → Entry → Bool) (key : Key) :
    (table.filter keep).get? key = (table.get? key).filter (keep key) :=
  lookup_filter keep table.distinct

@[simp]
theorem get?_retain (table : Table Key Entry) (keep : Entry → Bool) (key : Key) :
    (table.retain keep).get? key = (table.get? key).filter keep :=
  get?_filter table _ key

theorem get?_erase (table : Table Key Entry) (erased key : Key) :
    (table.erase erased).get? key = if key = erased then none else table.get? key := by
  rw [erase, get?_filter]
  by_cases same : key = erased
  · simp [same]
  · cases table.get? key <;> simp [same]

theorem get?_insert (table : Table Key Entry) (inserted key : Key) (entry : Entry) :
    (table.insert inserted entry).get? key =
      if key = inserted then some entry else table.get? key := by
  by_cases same : key = inserted
  · simp [get?, insert, same]
  · have differs : (key == inserted) = false := by simpa using same
    have rest := get?_erase table inserted key
    simp only [same, ↓reduceIte] at rest ⊢
    rw [← rest]
    simp [get?, insert, List.lookup_cons, differs]

end Table

end AdmissionControl
