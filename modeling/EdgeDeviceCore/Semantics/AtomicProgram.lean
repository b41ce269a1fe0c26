import Mathlib

/-!
# Programs of atomic operations

A program issues operations on a shared state one at a time and continues with each reply. It has
two meanings: run alone it is a state transformer, and in a pool of programs each operation is one
step of a schedule.
-/

namespace EdgeDeviceCore.Semantics

inductive AtomicProgram (Op : Type) (Reply : Op → Type) (Result : Type) where
  | done (result : Result)
  | issue (op : Op) (next : Reply op → AtomicProgram Op Reply Result)

namespace AtomicProgram

variable {Op : Type} {Reply : Op → Type} {Result First Second Third State : Type}

def bind (program : AtomicProgram Op Reply First) (next : First → AtomicProgram Op Reply Second) :
    AtomicProgram Op Reply Second :=
  match program with
  | .done result => next result
  | .issue op rest => .issue op fun reply ↦ (rest reply).bind next

instance : Monad (AtomicProgram Op Reply) where
  pure := .done
  bind := bind

@[simp]
theorem pure_eq_done (result : Result) :
    (pure result : AtomicProgram Op Reply Result) = .done result := rfl

@[simp]
theorem done_bind (result : First) (next : First → AtomicProgram Op Reply Second) :
    (.done result >>= next : AtomicProgram Op Reply Second) = next result := rfl

@[simp]
theorem issue_bind (op : Op) (rest : Reply op → AtomicProgram Op Reply First)
    (next : First → AtomicProgram Op Reply Second) :
    (.issue op rest >>= next : AtomicProgram Op Reply Second) =
      .issue op fun reply ↦ rest reply >>= next := rfl

/-! ## Running alone -/

/-- Run a program alone, from a state to its result and the state it leaves. -/
def exec (perform : (op : Op) → State → Reply op × State) :
    AtomicProgram Op Reply Result → State → Result × State
  | .done result, state => (result, state)
  | .issue op next, state => (next (perform op state).1).exec perform (perform op state).2

variable {perform : (op : Op) → State → Reply op × State}

@[simp]
theorem exec_done (result : Result) (state : State) :
    (done result : AtomicProgram Op Reply Result).exec perform state = (result, state) := rfl

@[simp]
theorem exec_issue (op : Op) (next : Reply op → AtomicProgram Op Reply Result) (state : State) :
    (issue op next).exec perform state =
      (next (perform op state).1).exec perform (perform op state).2 := rfl

@[simp]
theorem exec_bind (program : AtomicProgram Op Reply First)
    (next : First → AtomicProgram Op Reply Second) (state : State) :
    (program >>= next).exec perform state =
      (next (program.exec perform state).1).exec perform (program.exec perform state).2 := by
  induction program generalizing state with
  | done result => rfl
  | issue op rest ih => exact ih (perform op state).1 (perform op state).2

@[simp]
theorem exec_ite (condition : Prop) [Decidable condition]
    (left right : AtomicProgram Op Reply Result) (state : State) :
    (if condition then left else right).exec perform state =
      if condition then left.exec perform state else right.exec perform state :=
  apply_ite (exec perform · state) ..

/-- Run programs one after another, each to its end. -/
def execAll (perform : (op : Op) → State → Reply op × State)
    (programs : List (AtomicProgram Op Reply Result)) (state : State) : State :=
  programs.foldl (fun state program ↦ (program.exec perform state).2) state

theorem execAll_concat (programs : List (AtomicProgram Op Reply Result))
    (program : AtomicProgram Op Reply Result) (state : State) :
    execAll perform (programs ++ [program]) state =
      (program.exec perform (execAll perform programs state)).2 :=
  List.foldl_concat _ _ _ _

/-! ## The replies of a run -/

/-- Every reply that the program gets, run alone from a state, meets a condition. -/
def RepliesMeet (perform : (op : Op) → State → Reply op × State)
    (meets : (op : Op) → Reply op → Prop) : AtomicProgram Op Reply Result → State → Prop
  | .done _, _ => True
  | .issue op next, state => meets op (perform op state).1 ∧
      (next (perform op state).1).RepliesMeet perform meets (perform op state).2

section RepliesMeet

variable {meets : (op : Op) → Reply op → Prop}

@[simp]
theorem repliesMeet_done (result : Result) (state : State) :
    (done result : AtomicProgram Op Reply Result).RepliesMeet perform meets state :=
  trivial

@[simp]
theorem repliesMeet_bind (program : AtomicProgram Op Reply First)
    (next : First → AtomicProgram Op Reply Second) (state : State) :
    (program >>= next).RepliesMeet perform meets state ↔
      program.RepliesMeet perform meets state ∧
        (next (program.exec perform state).1).RepliesMeet perform meets
          (program.exec perform state).2 := by
  induction program generalizing state with
  | done result => exact (iff_of_eq (true_and _)).symm
  | issue op rest ih =>
      rw [issue_bind, RepliesMeet, RepliesMeet, ih, and_assoc]
      rfl

end RepliesMeet

/-! ## What a program ensures among others -/

/-- Every operation of the program keeps an invariant, and its result meets a condition, whatever
states the program meets as long as they meet the invariant. -/
def Ensures (perform : (op : Op) → State → Reply op × State) (invariant : State → Prop)
    (post : Result → Prop) : AtomicProgram Op Reply Result → Prop
  | .done result => post result
  | .issue op next => ∀ state, invariant state →
      invariant (perform op state).2 ∧ (next (perform op state).1).Ensures perform invariant post

/-- The program keeps the invariant. -/
abbrev Keeps (perform : (op : Op) → State → Reply op × State) (invariant : State → Prop)
    (program : AtomicProgram Op Reply Result) : Prop :=
  program.Ensures perform invariant fun _ ↦ True

section Ensures

variable {invariant : State → Prop} {program : AtomicProgram Op Reply First}
  {next : First → AtomicProgram Op Reply Second} {post : First → Prop} {after : Second → Prop}

theorem Ensures.bind (hprogram : program.Ensures perform invariant post)
    (hnext : ∀ result, post result → (next result).Ensures perform invariant after) :
    (program >>= next).Ensures perform invariant after := by
  induction program with
  | done result => exact hnext result hprogram
  | issue op rest ih =>
      intro state hstate
      obtain ⟨hafter, hrest⟩ := hprogram state hstate
      exact ⟨hafter, ih _ hrest⟩

/-- A program may drop the result of the one before it. -/
theorem Keeps.bind (hprogram : program.Keeps perform invariant)
    (hnext : ∀ result, (next result).Ensures perform invariant after) :
    (program >>= next).Ensures perform invariant after :=
  Ensures.bind hprogram fun result _ ↦ hnext result

theorem Ensures.exec (hprogram : program.Ensures perform invariant post) {state : State}
    (h : invariant state) : invariant (program.exec perform state).2 := by
  induction program generalizing state with
  | done result => exact h
  | issue op next ih =>
      obtain ⟨hstate, hnext⟩ := hprogram state h
      exact ih _ hnext hstate

end Ensures

end AtomicProgram

end EdgeDeviceCore.Semantics
