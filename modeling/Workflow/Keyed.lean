/-!
# Tables sorted by key

A table is a list of key-value pairs in strictly increasing order of the keys, by code points.
Objects of a state tree and the named parts of a document are kept this way, so their order is
part of the value and never depends on how a table was built.  `Keyed.Sorted` says what the order
is; `insert` keeps it, and `get?_insert` says what an insertion changes.
-/

namespace Workflow.Keyed

variable {α : Type}

def get? (key : String) : List (String × α) → Option α
  | [] => none
  | (name, value) :: rest => if key = name then some value else get? key rest

/-- Stores `value` under `key`, in place of an earlier one or at the key's place in the order. -/
def insert (key : String) (value : α) : List (String × α) → List (String × α)
  | [] => [(key, value)]
  | (name, old) :: rest =>
    if key = name then (key, value) :: rest
    else if key < name then (key, value) :: (name, old) :: rest
    else (name, old) :: insert key value rest

def contains (key : String) (table : List (String × α)) : Bool :=
  (get? key table).isSome

/-- The table of the given pairs; of several values for one key the last counts. -/
def ofList (pairs : List (String × α)) : List (String × α) :=
  pairs.foldl (fun table pair => insert pair.1 pair.2 table) []

/-- The keys stand in strictly increasing order. -/
def Sorted (table : List (String × α)) : Prop :=
  table.Pairwise (fun a b => a.1 < b.1)

@[simp] theorem get?_nil (key : String) : get? key ([] : List (String × α)) = none := rfl

theorem get?_cons (key name : String) (value : α) (rest : List (String × α)) :
    get? key ((name, value) :: rest) = if key = name then some value else get? key rest := rfl

theorem mem_of_get? {key : String} {value : α} {table : List (String × α)}
    (hget : get? key table = some value) : (key, value) ∈ table := by
  induction table with
  | nil => cases hget
  | cons first rest ih =>
      obtain ⟨name, found⟩ := first
      rw [get?_cons] at hget
      by_cases hkey : key = name
      · rw [if_pos hkey] at hget
        cases hget
        rw [hkey]
        exact List.mem_cons_self
      · rw [if_neg hkey] at hget
        exact List.mem_cons_of_mem _ (ih hget)

/-- An insertion changes what is stored under its own key and nothing else. -/
theorem get?_insert (key other : String) (value : α) (table : List (String × α)) :
    get? other (insert key value table) = if other = key then some value else get? other table := by
  induction table with
  | nil => simp [insert, get?]
  | cons pair rest ih =>
    obtain ⟨name, old⟩ := pair
    unfold insert
    split
    · subst name
      by_cases h : other = key <;> simp [get?, h]
    · split
      · simp [get?]
      · by_cases h : other = name
        · subst h
          simp [get?, Ne.symm ‹¬key = _›]
        · simp [get?, h, ih]

theorem mem_insert {pair : String × α} {key : String} {value : α} {table : List (String × α)}
    (h : pair ∈ insert key value table) : pair = (key, value) ∨ pair ∈ table := by
  induction table with
  | nil => simpa [insert] using h
  | cons first rest ih =>
    obtain ⟨name, old⟩ := first
    unfold insert at h
    split at h
    · rcases List.mem_cons.1 h with h | h
      · exact .inl h
      · exact .inr (List.mem_cons_of_mem _ h)
    · split at h
      · simpa using h
      · rcases List.mem_cons.1 h with h | h
        · exact .inr (h ▸ List.mem_cons_self)
        · exact (ih h).imp_right (List.mem_cons_of_mem _)

/-- An insertion keeps the order of the keys. -/
theorem Sorted.insert {table : List (String × α)} (sorted : Sorted table) (key : String)
    (value : α) : Sorted (Keyed.insert key value table) := by
  induction table with
  | nil => simp [Keyed.insert, Sorted]
  | cons first rest ih =>
    obtain ⟨name, old⟩ := first
    obtain ⟨before, tail⟩ := List.pairwise_cons.1 sorted
    unfold Keyed.insert
    split
    · subst name
      exact List.pairwise_cons.2 ⟨before, tail⟩
    · split
      next below =>
        refine List.pairwise_cons.2 ⟨fun pair h => ?_, sorted⟩
        rcases List.mem_cons.1 h with h | h
        · exact h ▸ below
        · exact String.lt_trans below (before pair h)
      next differs notBelow =>
        refine List.pairwise_cons.2 ⟨fun pair h => ?_, ih tail⟩
        rcases mem_insert h with h | h
        · subst h
          exact Std.lt_of_le_of_ne (Std.not_lt.1 notBelow) (Ne.symm differs)
        · exact before pair h

end Workflow.Keyed
