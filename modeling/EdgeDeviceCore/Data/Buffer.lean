import Mathlib

/-!
# Buffers that remember their writes

A write outside a buffer changes none of its cells but is remembered, so that a finished buffer
tells whether it was ever written out of bounds.
-/

namespace EdgeDeviceCore.Data

structure Buffer (Cell : Type*) where
  cells : List Cell
  /-- The written indices, in order. -/
  written : List ℕ
deriving DecidableEq, Repr

namespace Buffer

variable {Cell : Type*}

/-- A new buffer with one value in all its cells. -/
def filled (size : ℕ) (cell : Cell) : Buffer Cell := ⟨List.replicate size cell, []⟩

def store (buffer : Buffer Cell) (index : ℕ) (cell : Cell) : Buffer Cell :=
  ⟨buffer.cells.set index cell, buffer.written ++ [index]⟩

/-- Stores at arbitrary indices, one after the other. -/
def storeAll (buffer : Buffer Cell) (stores : List (ℕ × Cell)) : Buffer Cell :=
  stores.foldl (fun buffer store ↦ buffer.store store.1 store.2) buffer

/-- Stores at consecutive indices. -/
def copy (buffer : Buffer Cell) (start : ℕ) : List Cell → Buffer Cell
  | [] => buffer
  | cell :: cells => (buffer.store start cell).copy (start + 1) cells

/-- No write was out of bounds. -/
def InBounds (buffer : Buffer Cell) : Prop := ∀ index ∈ buffer.written, index < buffer.cells.length

variable {buffer : Buffer Cell}

@[simp]
theorem length_filled (size : ℕ) (cell : Cell) : (filled size cell).cells.length = size :=
  List.length_replicate

@[simp]
theorem length_store (index : ℕ) (cell : Cell) :
    (buffer.store index cell).cells.length = buffer.cells.length :=
  List.length_set

@[simp]
theorem storeAll_nil : buffer.storeAll [] = buffer := rfl

@[simp]
theorem storeAll_cons (store : ℕ × Cell) (stores : List (ℕ × Cell)) :
    buffer.storeAll (store :: stores) = (buffer.store store.1 store.2).storeAll stores := rfl

@[simp]
theorem length_storeAll (stores : List (ℕ × Cell)) :
    (buffer.storeAll stores).cells.length = buffer.cells.length := by
  induction stores generalizing buffer with
  | nil => rfl
  | cons store stores ih => rw [storeAll_cons, ih, length_store]

@[simp]
theorem length_copy (start : ℕ) (source : List Cell) :
    (buffer.copy start source).cells.length = buffer.cells.length := by
  induction source generalizing buffer start with
  | nil => rfl
  | cons cell source ih => rw [copy, ih, length_store]

/-! ## Staying in bounds -/

theorem inBounds_filled (size : ℕ) (cell : Cell) : (filled size cell).InBounds := nofun

theorem InBounds.store (h : buffer.InBounds) {index : ℕ} (hindex : index < buffer.cells.length)
    (cell : Cell) : (buffer.store index cell).InBounds := by
  intro other hother
  rw [length_store]
  rcases List.mem_append.mp hother with hbefore | hnew
  · exact h other hbefore
  · rw [List.mem_singleton.mp hnew]
    exact hindex

theorem InBounds.storeAll (h : buffer.InBounds) {stores : List (ℕ × Cell)}
    (hstores : ∀ store ∈ stores, store.1 < buffer.cells.length) :
    (buffer.storeAll stores).InBounds := by
  induction stores generalizing buffer with
  | nil => exact h
  | cons store stores ih =>
      apply ih (h.store (hstores store (List.mem_cons_self ..)) store.2)
      intro other hother
      rw [length_store]
      exact hstores other (List.mem_cons_of_mem _ hother)

theorem InBounds.copy (h : buffer.InBounds) {start : ℕ} {source : List Cell}
    (hroom : start + source.length ≤ buffer.cells.length) :
    (buffer.copy start source).InBounds := by
  induction source generalizing buffer start with
  | nil => exact h
  | cons cell source ih =>
      rw [List.length_cons] at hroom
      apply ih (h.store (by omega) cell)
      rw [length_store]
      omega

/-! ## The cells after writes -/

theorem cells_store (index : ℕ) (cell : Cell) :
    (buffer.store index cell).cells = buffer.cells.set index cell := rfl

/-- A store of what a cell already holds changes no cell. -/
theorem cells_store_of_getElem? {index : ℕ} {cell : Cell} (h : buffer.cells[index]? = some cell) :
    (buffer.store index cell).cells = buffer.cells := by
  obtain ⟨hindex, rfl⟩ := List.getElem?_eq_some_iff.mp h
  rw [cells_store, List.set_getElem_self]

/-- A copy replaces the cells that it covers and no other. -/
theorem cells_copy {start : ℕ} {source : List Cell}
    (hroom : start + source.length ≤ buffer.cells.length) :
    (buffer.copy start source).cells =
      buffer.cells.take start ++ source ++ buffer.cells.drop (start + source.length) := by
  induction source generalizing buffer start with
  | nil => simp [copy]
  | cons cell source ih =>
      rw [List.length_cons] at hroom
      have hstart : start < buffer.cells.length := by omega
      calc (buffer.copy start (cell :: source)).cells
          = (buffer.cells.set start cell).take (start + 1) ++ source ++
              (buffer.cells.set start cell).drop (start + 1 + source.length) :=
            ih (by rw [length_store]; omega)
        _ = buffer.cells.take start ++ [cell] ++ source ++
              buffer.cells.drop (start + 1 + source.length) := by
            rw [List.drop_set_of_lt (by omega), List.take_add_one, List.take_set_of_le le_rfl,
              List.getElem?_set_self hstart, Option.toList_some]
        _ = _ := by
            rw [List.append_assoc _ [cell], List.singleton_append, List.length_cons,
              Nat.add_right_comm, Nat.add_assoc start]

theorem cells_copy_zero {source : List Cell} (hroom : source.length ≤ buffer.cells.length) :
    (buffer.copy 0 source).cells = source ++ buffer.cells.drop source.length := by
  rw [cells_copy (by omega), List.take_zero, List.nil_append, Nat.zero_add]

/-- A cell behind a copy keeps its value. -/
theorem cells_copy_zero_getElem? {source : List Cell} {index : ℕ}
    (hroom : source.length ≤ buffer.cells.length) (hindex : source.length ≤ index) :
    (buffer.copy 0 source).cells[index]? = buffer.cells[index]? := by
  rw [cells_copy_zero hroom, List.getElem?_append_right hindex, List.getElem?_drop,
    Nat.add_sub_cancel' hindex]

/-- A cell that no store addresses keeps its value. -/
theorem cells_storeAll_getElem? {stores : List (ℕ × Cell)} {index : ℕ}
    (h : ∀ store ∈ stores, store.1 ≠ index) :
    (buffer.storeAll stores).cells[index]? = buffer.cells[index]? := by
  induction stores generalizing buffer with
  | nil => rfl
  | cons store stores ih =>
      rw [storeAll_cons, ih fun other hother ↦ h other (List.mem_cons_of_mem _ hother),
        cells_store, List.getElem?_set_ne (h store (List.mem_cons_self ..))]

/-- Stores at the front of a buffer leave its rest as it is. -/
theorem cells_storeAll_append {front rest : List Cell} {written written' : List ℕ}
    {stores : List (ℕ × Cell)} (h : ∀ store ∈ stores, store.1 < front.length) :
    (storeAll ⟨front ++ rest, written⟩ stores).cells =
      (storeAll ⟨front, written'⟩ stores).cells ++ rest := by
  induction stores generalizing front written written' with
  | nil => rfl
  | cons store stores ih =>
      have hset : (front ++ rest).set store.1 store.2 = front.set store.1 store.2 ++ rest :=
        List.set_append_left _ _ (h store (List.mem_cons_self ..))
      rw [storeAll_cons, storeAll_cons, Buffer.store, Buffer.store, hset]
      apply ih
      intro other hother
      rw [List.length_set]
      exact h other (List.mem_cons_of_mem _ hother)

end Buffer

end EdgeDeviceCore.Data
