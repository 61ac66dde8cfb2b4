/-!
# Members in key order

A table from texts to values, kept as a list whose keys ascend strictly. Texts are ordered by their
code points, which is also the order of their UTF-8 bytes.
-/

namespace CallContracts

/-- A table from keys to values as a list in ascending key order. -/
abbrev Members (α : Type) : Type :=
  List (String × α)

namespace Members

variable {α : Type}

/-- The value under `key`. -/
def find? (key : String) : Members α → Option α
  | [] => none
  | (other, value) :: rest => if other = key then some value else find? key rest

/-- The table with `value` under `key`, in place of any earlier value there. -/
def insert (key : String) (value : α) : Members α → Members α
  | [] => [(key, value)]
  | (other, current) :: rest =>
    if key < other then (key, value) :: (other, current) :: rest
    else if key = other then (key, value) :: rest
    else (other, current) :: insert key value rest

/-- The table of a list of members, in which a later member replaces an earlier one of its key. -/
def ofList (members : List (String × α)) : Members α :=
  members.foldl (fun table (key, value) => table.insert key value) []

def keys (members : Members α) : List String :=
  members.map Prod.fst

@[simp]
theorem find?_nil (key : String) : find? key ([] : Members α) = none :=
  rfl

theorem find?_insert (members : Members α) (key other : String) (value : α) :
    (members.insert key value).find? other =
      if key = other then some value else members.find? other := by
  induction members with
  | nil => simp [insert, find?]
  | cons member rest ih =>
    obtain ⟨current, content⟩ := member
    by_cases before : key < current
    · simp [insert, before, find?]
    · by_cases same : key = current
      · subst same
        by_cases found : key = other <;> simp [insert, find?, found]
      · by_cases found : current = other
        · have : key ≠ other := fun equal => same (equal.trans found.symm)
          rw [insert, if_neg before, if_neg same]
          simp [find?, found, this]
        · simp [insert, before, same, find?, found, ih]

theorem eq_or_mem_of_mem_insert {members : Members α} {key : String} {value : α}
    {member : String × α} (among : member ∈ members.insert key value) :
    member = (key, value) ∨ member ∈ members := by
  induction members with
  | nil => exact Or.inl (List.mem_singleton.mp among)
  | cons first rest ih =>
    rw [insert] at among
    split at among
    · exact List.mem_cons.mp among
    · split at among
      · exact (List.mem_cons.mp among).imp id (List.mem_cons_of_mem first)
      · rcases List.mem_cons.mp among with rfl | behind
        · exact Or.inr List.mem_cons_self
        · exact (ih behind).imp id (List.mem_cons_of_mem first)

theorem mem_of_mem_ofList {members : List (String × α)} {member : String × α}
    (among : member ∈ ofList members) : member ∈ members := by
  have kept (inserted : List (String × α)) (table : Members α)
      (found : member ∈ inserted.foldl (fun table (key, value) => table.insert key value) table) :
      member ∈ inserted ∨ member ∈ table := by
    induction inserted generalizing table with
    | nil => exact Or.inr found
    | cons first rest ih =>
      rcases ih _ found with behind | inTable
      · exact Or.inl (List.mem_cons_of_mem first behind)
      · rcases eq_or_mem_of_mem_insert inTable with rfl | earlier
        · exact Or.inl List.mem_cons_self
        · exact Or.inr earlier
  exact (kept members [] among).resolve_right List.not_mem_nil

end Members

end CallContracts
