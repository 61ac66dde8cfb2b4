import CallContracts.Proofs.Sessions

/-!
# Deeper runs

A run that ends within some depth ends in the same way within every greater one, so the depth that
is allowed decides whether there is a result, and never which. The same holds of the walk that
settles values.
-/

namespace CallContracts

/-- What one way of carrying things out comes to, the other comes to as well. -/
def Extends {α β : Type} (enter further : α → Store → Option (β × Store)) : Prop :=
  ∀ {input : α} {store : Store} {ended : β × Store},
    enter input store = some ended → further input store = some ended

namespace Program

/-- One level of a run ends as before if the runs nested in it do. -/
theorem perform_further {enter further : Program → Store → Option (Settlement × Store)}
    (nested : Extends enter further) (program : Program) {store : Store}
    {ended : Settlement × Store} (ends : program.perform enter store = some ended) :
    program.perform further store = some ended := by
  induction program generalizing store with
  | finish settlement => exact ends
  | write line next ih => exact ih ends
  | call callee arguments resume ih =>
      rcases perform_call_eq_some ends with ⟨returned, reached, called, behind⟩
      simp only [perform, nested called]
      exact ih returned behind
  | await promise resume ih =>
      rcases perform_await_eq_some ends with
        ⟨noted, state, behind⟩ | ⟨work, noted, reached, state, worked, behind⟩
      · simp only [perform, state]
        exact ih noted behind
      · simp only [perform, state, nested worked]
        exact ih noted behind
  | defer work resume ihWork ih => exact ih _ ends
  | create name body resume ihBody ih => exact ih _ ends
  | load key resume ih => exact ih _ ends
  | save key value next ih => exact ih ends

end Program

namespace Store

theorem run_succ {depth : Nat} : Extends (run depth) (run (depth + 1)) := by
  intro program store ended ends
  induction depth generalizing program store ended with
  | zero => simp [run] at ends
  | succ depth ih => exact Program.perform_further ih program ends

/-- A run ends within every greater depth as it ends within this one. -/
theorem run_deeper {depth deeper : Nat} (le : depth ≤ deeper) :
    Extends (run depth) (run deeper) := by
  intro program store ended ends
  induction le with
  | refl => exact ends
  | step _ ih => exact run_succ ih

/-- However deep two runs of a program are, they end alike. -/
theorem run_unique {depth other : Nat} {program : Program} {store : Store}
    {left right : Settlement × Store} (first : run depth program store = some left)
    (second : run other program store = some right) : left = right := by
  have leftDeeper := run_deeper (Nat.le_max_left depth other) first
  have rightDeeper := run_deeper (Nat.le_max_right depth other) second
  exact Option.some.inj (leftDeeper.symm.trans rightDeeper)

theorem await_deeper {depth deeper : Nat} (le : depth ≤ deeper) :
    Extends (fun promise store => store.await depth promise)
      fun promise store => store.await deeper promise :=
  fun ends => run_deeper le ends

end Store

/-! ## The walk that settles -/

section Walk

variable {follow further : PromiseId → Store → Option (Except Fault (Settled Value) × Store)}

mutual

/-- The walk over a value ends as before if promises are followed as before. -/
theorem Value.settle_further (followed : Extends follow further) (value : Value) {store : Store}
    {ended : Except Fault (Settled Value) × Store}
    (ends : value.settle follow store = some ended) : value.settle further store = some ended := by
  cases value with
  | promise id =>
      simp only [Value.settle] at ends ⊢
      exact followed ends
  | array items =>
      rcases ended with ⟨result, later⟩
      simp only [Value.settle]
      rcases Value.settle_array_eq_some ends with ⟨fault, walked, rfl⟩ | ⟨settled, walked, rfl⟩
      · rw [Value.settleList_further followed items walked]
      · rw [Value.settleList_further followed items walked]
  | _ =>
      simp only [Value.settle] at ends ⊢
      exact ends
termination_by structural value

theorem Value.settleList_further (followed : Extends follow further) (items : List Value)
    {store : Store} {ended : Except Fault (Settled (List Value)) × Store}
    (ends : Value.settleList follow items store = some ended) :
    Value.settleList further items store = some ended := by
  cases items with
  | nil =>
      simp only [Value.settleList] at ends ⊢
      exact ends
  | cons item items =>
      rcases ended with ⟨result, later⟩
      simp only [Value.settleList]
      rcases Value.settleList_cons_eq_some ends with
        ⟨fault, walked, rfl⟩ | ⟨first, middle, walkedFirst, others⟩
      · rw [Value.settle_further followed item walked]
      · rw [Value.settle_further followed item walkedFirst]
        rcases others with ⟨fault, walked, rfl⟩ | ⟨others, walked, rfl⟩
        · simp only [Value.settleList_further followed items walked]
        · simp only [Value.settleList_further followed items walked]
termination_by structural items

end

end Walk

namespace Store

theorem follow_succ {depth : Nat} : Extends (follow depth) (follow (depth + 1)) := by
  intro promise store ended ends
  induction depth generalizing promise store ended with
  | zero => simp [follow] at ends
  | succ depth ih =>
      rcases ended with ⟨result, later⟩
      unfold follow
      rcases follow_eq_some ends with
        ⟨resolution, middle, driven, walked⟩ | ⟨failure, driven, rfl⟩ | ⟨fault, driven, other, rfl⟩
      · simp only [await_deeper (Nat.le_succ _) driven]
        exact Value.settle_further ih resolution walked
      · simp only [await_deeper (Nat.le_succ _) driven]
      · simp only [await_deeper (Nat.le_succ _) driven]

theorem follow_deeper {depth deeper : Nat} (le : depth ≤ deeper) :
    Extends (follow depth) (follow deeper) := by
  intro promise store ended ends
  induction le with
  | refl => exact ends
  | step _ ih => exact follow_succ ih

end Store

end CallContracts
