import Mathlib

/-!
# Programs that hold resources

A program acquires resources, uses what is held and releases it. To use or to release what is not
held is a fault, so that a resource that is released twice, or used after its release, ends
a program. A triple tells what a program owns before and after it runs. Whatever else is held stays
as it is, which is why triples compose.
-/

namespace EdgeDeviceCore.Semantics.Resources

/-- A resource of some kind, with the number that it was acquired under. -/
structure Handle (Kind : Type) where
  kind : Kind
  number : ℕ
  deriving DecidableEq

/-- What is held. No number is given twice. -/
structure Ledger (Kind : Type) where
  held : Finset (Handle Kind)
  next : ℕ
  lt_next : ∀ handle ∈ held, handle.number < next

variable {Kind : Type}

namespace Ledger

theorem lt_next_empty : ∀ handle ∈ (∅ : Finset (Handle Kind)), handle.number < 0 :=
  fun _ hmem ↦ absurd hmem (Finset.notMem_empty _)

def empty : Ledger Kind := ⟨∅, 0, lt_next_empty⟩

theorem fresh_notMem (ledger : Ledger Kind) (kind : Kind) : ⟨kind, ledger.next⟩ ∉ ledger.held :=
  fun hmem ↦ (ledger.lt_next _ hmem).false

theorem lt_next_cons (ledger : Ledger Kind) (kind : Kind) :
    ∀ handle ∈ Finset.cons ⟨kind, ledger.next⟩ ledger.held (ledger.fresh_notMem kind),
      handle.number < ledger.next + 1 := by
  intro handle hmem
  rcases Finset.mem_cons.mp hmem with rfl | hheld
  · exact Nat.lt_succ_self _
  · exact (ledger.lt_next handle hheld).trans (Nat.lt_succ_self _)

def acquire (ledger : Ledger Kind) (kind : Kind) : Ledger Kind where
  held := Finset.cons ⟨kind, ledger.next⟩ ledger.held (ledger.fresh_notMem kind)
  next := ledger.next + 1
  lt_next := ledger.lt_next_cons kind

theorem mem_acquire (ledger : Ledger Kind) (kind : Kind) :
    ⟨kind, ledger.next⟩ ∈ (ledger.acquire kind).held := by
  rw [acquire, Finset.mem_cons]
  exact .inl rfl

variable [DecidableEq Kind]

theorem lt_next_erase (ledger : Ledger Kind) (released : Handle Kind) :
    ∀ handle ∈ ledger.held.erase released, handle.number < ledger.next :=
  fun handle hmem ↦ ledger.lt_next handle (Finset.mem_of_mem_erase hmem)

def release (ledger : Ledger Kind) (released : Handle Kind) : Ledger Kind where
  held := ledger.held.erase released
  next := ledger.next
  lt_next := ledger.lt_next_erase released

theorem held_release_acquire (ledger : Ledger Kind) (kind : Kind) :
    ((ledger.acquire kind).release ⟨kind, ledger.next⟩).held = ledger.held :=
  Finset.erase_cons (ledger.fresh_notMem kind)

end Ledger

/-! ## Programs -/

/-- A program, or `none` where it faults. -/
abbrev Program (Kind α : Type) := StateT (Ledger Kind) Option α

def acquire (kind : Kind) : Program Kind (Handle Kind) := fun ledger ↦
  some (⟨kind, ledger.next⟩, ledger.acquire kind)

/-- An acquisition that may fail. -/
def tryAcquire (kind : Kind) (succeeds : Bool) : Program Kind (Option (Handle Kind)) :=
  if succeeds then some <$> acquire kind else pure none

/-- What a pointer owns. -/
def owned : Option (Handle Kind) → Multiset (Handle Kind)
  | none => 0
  | some handle => {handle}

@[simp]
theorem owned_none : owned (none : Option (Handle Kind)) = 0 := rfl

@[simp]
theorem owned_some (handle : Handle Kind) : owned (some handle) = {handle} := rfl

variable [DecidableEq Kind]

def use (handle : Handle Kind) : Program Kind Unit := fun ledger ↦
  if handle ∈ ledger.held then some ((), ledger) else none

def release (handle : Handle Kind) : Program Kind Unit := fun ledger ↦
  if handle ∈ ledger.held then some ((), ledger.release handle) else none

/-- `free` and its like do nothing for a null pointer. -/
def releaseAny : Option (Handle Kind) → Program Kind Unit
  | none => pure ()
  | some handle => release handle

/-! ## Triples -/

variable {α β : Type}

/-- Owning some resources, a program does not fault, and ends with a result and the resources that
it owns then. What else is held stays held. -/
def Triple (owns : Multiset (Handle Kind)) (program : Program Kind α)
    (post : α → Multiset (Handle Kind) → Prop) : Prop :=
  ∀ ledger frame, ledger.held.val = owns + frame →
    ∃ result after rest, program.run ledger = some (result, after) ∧
      after.held.val = rest + frame ∧ post result rest

namespace Triple

omit [DecidableEq Kind]

variable {owns : Multiset (Handle Kind)} {program : Program Kind α}
  {post : α → Multiset (Handle Kind) → Prop} {last : β → Multiset (Handle Kind) → Prop}

theorem pure {result : α} (h : post result owns) : Triple owns (pure result) post :=
  fun ledger _ hheld ↦ ⟨result, ledger, owns, rfl, hheld, h⟩

theorem bind {next : α → Program Kind β} (h : Triple owns program post)
    (hnext : ∀ result rest, post result rest → Triple rest (next result) last) :
    Triple owns (program >>= next) last := by
  intro ledger frame hheld
  obtain ⟨result, middle, rest, hrun, hmiddle, hpost⟩ := h ledger frame hheld
  obtain ⟨final, after, remaining, hfinal, hafter, hlast⟩ :=
    hnext result rest hpost middle frame hmiddle
  refine ⟨final, after, remaining, ?_, hafter, hlast⟩
  rw [StateT.run_bind, hrun]
  exact hfinal

theorem mono {weaker : α → Multiset (Handle Kind) → Prop} (h : Triple owns program post)
    (hpost : ∀ result rest, post result rest → weaker result rest) :
    Triple owns program weaker := by
  intro ledger frame hheld
  obtain ⟨result, after, rest, hrun, hafter, hresult⟩ := h ledger frame hheld
  exact ⟨result, after, rest, hrun, hafter, hpost result rest hresult⟩

theorem map {f : α → β} (h : Triple owns program fun result rest ↦ last (f result) rest) :
    Triple owns (f <$> program) last := by
  rw [map_eq_pure_bind]
  exact h.bind fun result rest hlast ↦ pure hlast

/-- A program leaves what it does not own. -/
theorem frame (h : Triple owns program post) (more : Multiset (Handle Kind)) :
    Triple (owns + more) program fun result rest ↦ ∃ own, rest = own + more ∧ post result own := by
  intro ledger frame hheld
  rw [add_assoc] at hheld
  obtain ⟨result, after, rest, hrun, hafter, hresult⟩ := h ledger (more + frame) hheld
  rw [← add_assoc] at hafter
  exact ⟨result, after, rest + more, hrun, hafter, rest, rfl, hresult⟩

theorem acquire_bind {kind : Kind} {next : Handle Kind → Program Kind β}
    (h : ∀ handle, Triple (owns + {handle}) (next handle) last) :
    Triple owns (acquire kind >>= next) last := by
  intro ledger frame hheld
  apply h ⟨kind, ledger.next⟩ (ledger.acquire kind) frame
  rw [Ledger.acquire, Finset.cons_val, hheld, add_right_comm, add_comm _ {_}]
  rfl

theorem tryAcquire_bind {kind : Kind} {succeeds : Bool}
    {next : Option (Handle Kind) → Program Kind β}
    (h : ∀ pointer, pointer.isSome = succeeds → Triple (owns + owned pointer) (next pointer) last) :
    Triple owns (tryAcquire kind succeeds >>= next) last := by
  cases succeeds with
  | false => exact add_zero owns ▸ h none rfl
  | true =>
      rw [tryAcquire, if_pos rfl, map_eq_pure_bind, bind_assoc]
      exact acquire_bind fun handle ↦ h (some handle) rfl

/-- The run of a program that owns all that is held. -/
theorem exists_run (h : Triple owns program post) (ledger : Ledger Kind)
    (hheld : ledger.held.val = owns) :
    ∃ result after, program.run ledger = some (result, after) ∧ post result after.held.val := by
  obtain ⟨result, after, rest, hrun, hafter, hresult⟩ :=
    h ledger 0 (by rw [hheld, add_zero])
  rw [add_zero] at hafter
  exact ⟨result, after, hrun, hafter ▸ hresult⟩

variable [DecidableEq Kind]

theorem use_bind {handle : Handle Kind} {next : Unit → Program Kind β} (hmem : handle ∈ owns)
    (h : Triple owns (next ()) last) : Triple owns (use handle >>= next) last := by
  intro ledger frame hheld
  have hin : handle ∈ ledger.held :=
    Finset.mem_val.mp (hheld ▸ Multiset.mem_add.mpr (.inl hmem))
  have huse : (use handle >>= next).run ledger = (next ()).run ledger := by
    rw [StateT.run_bind, show (use handle).run ledger = some ((), ledger) from if_pos hin]
    rfl
  rw [huse]
  exact h ledger frame hheld

theorem release_bind {handle : Handle Kind} {next : Unit → Program Kind β}
    (h : Triple owns (next ()) last) :
    Triple (owns + {handle}) (release handle >>= next) last := by
  intro ledger frame hheld
  have hmem : handle ∈ owns + {handle} := by simp
  have hin : handle ∈ ledger.held :=
    Finset.mem_val.mp (hheld ▸ Multiset.mem_add.mpr (.inl hmem))
  have hrelease : (release handle >>= next).run ledger =
      (next ()).run (ledger.release handle) := by
    rw [StateT.run_bind,
      show (release handle).run ledger = some ((), ledger.release handle) from if_pos hin]
    rfl
  rw [hrelease]
  apply h _ frame
  rw [Ledger.release, Finset.erase_val, hheld, Multiset.erase_add_left_pos frame hmem,
    Multiset.erase_add_right_pos owns (Multiset.mem_singleton_self handle),
    Multiset.erase_singleton, add_zero]

theorem releaseAny_bind {pointer : Option (Handle Kind)} {next : Unit → Program Kind β}
    (h : Triple owns (next ()) last) :
    Triple (owns + owned pointer) (releaseAny pointer >>= next) last := by
  cases pointer with
  | none =>
      rw [owned_none, add_zero, releaseAny, pure_bind]
      exact h
  | some handle => exact release_bind h

end Triple

/-- To release what is not held is a fault. -/
theorem run_release_of_notMem {handle : Handle Kind} {ledger : Ledger Kind}
    (h : handle ∉ ledger.held) : (release handle).run ledger = none :=
  if_neg h

end EdgeDeviceCore.Semantics.Resources
