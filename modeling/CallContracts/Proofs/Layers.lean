import Mathlib.Data.List.Sort
import CallContracts.Value.Basic

/-!
# Layered objects

Under a key an object shows the member of the topmost layer that has one. Looking up one key and
listing all keys walk down the layers in different ways, but they agree: each key under which
something is shown is listed once, and the list ascends. So objects that show something under the
same keys list the same keys.
-/

namespace CallContracts

namespace Members

variable {α : Type}

theorem mem_keys_iff {members : Members α} {key : String} :
    key ∈ members.keys ↔ (members.find? key).isSome := by
  induction members with
  | nil => simp [keys, find?]
  | cons member members ih =>
      by_cases same : member.1 = key
      · simp [keys, find?, same]
      · have other : key ≠ member.1 := fun equal => same equal.symm
        simpa [keys, find?, same, other] using ih

/-- A table holds what was inserted besides members that it held before. -/
theorem exists_perm_insert (members : Members α) (key : String) (value : α) :
    ∃ kept : Members α, kept.Sublist members ∧
      (members.insert key value).Perm ((key, value) :: kept) := by
  induction members with
  | nil => exact ⟨[], .refl [], .refl _⟩
  | cons member members ih =>
      unfold insert
      split
      · exact ⟨member :: members, .refl _, .refl _⟩
      · split
        · exact ⟨members, List.sublist_cons_self member members, .refl _⟩
        · rcases ih with ⟨kept, sublist, perm⟩
          refine ⟨member :: kept, sublist.cons_cons member, ?_⟩
          exact (perm.cons member).trans (.swap _ _ kept)

end Members

namespace Object

variable {object : Object} {key other : String}

@[simp]
theorem get?_layeredOver (base : Object) (key : String) :
    (layeredOver base).get? key = base.get? key := by
  simp [layeredOver, get?]

theorem get?_insert (object : Object) (key other : String) (value : Value) :
    (object.insert key value).get? other = if key = other then some value else object.get? other := by
  cases object with
  | root own => simp [insert, get?, Members.find?_insert]
  | layer own delegate =>
      simp only [insert, get?, Members.find?_insert]
      by_cases same : key = other <;> simp [same]

@[simp]
theorem own_insert (object : Object) (key : String) (value : Value) :
    (object.insert key value).own = Members.insert key value object.own := by
  cases object <;> rfl

@[simp]
theorem delegate?_insert (object : Object) (key : String) (value : Value) :
    (object.insert key value).delegate? = object.delegate? := by
  cases object <;> rfl

theorem method?_eq_some_iff {callable : CallableId} :
    object.method? key = some callable ↔ object.get? key = some (.function callable) := by
  unfold method?
  cases object.get? key with
  | none => simp
  | some value => cases value <;> simp [Value.callable?]

/-! ## The list of keys -/

theorem mem_insertKey {keys : List String} :
    other ∈ insertKey key keys ↔ other = key ∨ other ∈ keys := by
  induction keys with
  | nil => simp [insertKey]
  | cons first keys ih =>
      unfold insertKey
      split
      · simp
      · split
        · rename_i same
          simp [same]
        · simp only [List.mem_cons, ih]
          tauto

theorem ascending_insertKey {keys : List String} (ascending : keys.Pairwise (· < ·)) :
    (insertKey key keys).Pairwise (· < ·) := by
  induction keys with
  | nil => simp [insertKey]
  | cons first keys ih =>
      rcases List.pairwise_cons.mp ascending with ⟨above, ascending⟩
      unfold insertKey
      split
      · rename_i before
        refine List.pairwise_cons.mpr ⟨?_, List.pairwise_cons.mpr ⟨above, ascending⟩⟩
        intro later member
        rcases List.mem_cons.mp member with rfl | member
        · exact before
        · exact String.lt_trans before (above later member)
      · split
        · exact List.pairwise_cons.mpr ⟨above, ascending⟩
        · rename_i notBefore differ
          refine List.pairwise_cons.mpr ⟨?_, ih ascending⟩
          intro later member
          rcases mem_insertKey.mp member with rfl | member
          · apply Decidable.by_contra
            intro notBehind
            exact differ (String.le_antisymm (String.not_lt.mp notBehind) (String.not_lt.mp notBefore))
          · exact above later member

theorem mem_foldr_insertKey {inserted keys : List String} :
    other ∈ inserted.foldr insertKey keys ↔ other ∈ inserted ∨ other ∈ keys := by
  induction inserted with
  | nil => simp
  | cons first inserted ih => simp only [List.foldr_cons, mem_insertKey, ih, List.mem_cons, or_assoc]

theorem ascending_foldr_insertKey {keys : List String} (ascending : keys.Pairwise (· < ·))
    (inserted : List String) : (inserted.foldr insertKey keys).Pairwise (· < ·) := by
  induction inserted with
  | nil => exact ascending
  | cons first inserted ih => exact ascending_insertKey ih

theorem mem_keys_iff (object : Object) (key : String) :
    key ∈ object.keys ↔ (object.get? key).isSome := by
  cases object with
  | root own =>
      simp only [keys, get?, mem_foldr_insertKey, List.not_mem_nil, or_false, Members.mem_keys_iff]
  | layer own delegate =>
      simp only [keys, get?, mem_foldr_insertKey, Members.mem_keys_iff, mem_keys_iff delegate key]
      cases Members.find? key own <;> simp
termination_by structural object

theorem ascending_keys (object : Object) : object.keys.Pairwise (· < ·) := by
  cases object with
  | root own => exact ascending_foldr_insertKey .nil _
  | layer own delegate => exact ascending_foldr_insertKey (ascending_keys delegate) _
termination_by structural object

theorem keys_eq_of_isSome_get? {left right : Object}
    (same : ∀ key, (left.get? key).isSome = (right.get? key).isSome) : left.keys = right.keys := by
  apply left.ascending_keys.eq_of_mem_iff right.ascending_keys
  intro key
  rw [mem_keys_iff, mem_keys_iff, same]

end Object

end CallContracts
