import Mathlib

/-!
# Cutting a list into pieces

A list is cut from the front into pieces of one size, the last of which takes what is left. The
pieces make up the list again, and their number is the length over the size, rounded up.
-/

namespace EdgeDeviceCore.Data.Pieces

variable {Element : Type*}

theorem length_drop_lt (size : ℕ) [NeZero size] {list : List Element} (h : list ≠ []) :
    (list.drop size).length < list.length := by
  have hlength := List.length_pos_iff.mpr h
  have hsize := NeZero.pos size
  rw [List.length_drop]
  omega

def pieces (size : ℕ) [NeZero size] (list : List Element) : List (List Element) :=
  if list.isEmpty then [] else list.take size :: pieces size (list.drop size)
termination_by list.length
decreasing_by
  rename_i hempty
  exact length_drop_lt size fun h ↦ hempty (List.isEmpty_iff.mpr h)

variable {size : ℕ} [NeZero size] {list : List Element}

@[simp]
theorem pieces_nil : pieces size ([] : List Element) = [] := by
  rw [pieces]
  rfl

theorem pieces_of_ne_nil (h : list ≠ []) :
    pieces size list = list.take size :: pieces size (list.drop size) := by
  rw [pieces, if_neg]
  simpa using h

theorem pieces_eq_nil_iff : pieces size list = [] ↔ list = [] := by
  constructor
  · intro h
    by_contra hlist
    rw [pieces_of_ne_nil hlist] at h
    cases h
  · rintro rfl
    exact pieces_nil

variable (size) in
/-- The pieces of the rest are one step of the cut away. -/
theorem pieces_induction {motive : List Element → Prop} (nil : motive [])
    (cut : ∀ list, list ≠ [] → motive (list.drop size) → motive list) (list : List Element) :
    motive list := by
  induction hlength : list.length using Nat.strong_induction_on generalizing list with
  | _ length ih =>
      by_cases hlist : list = []
      · exact hlist ▸ nil
      · apply cut list hlist
        exact ih (list.drop size).length (hlength ▸ length_drop_lt size hlist) _ rfl

theorem flatten_pieces (list : List Element) : (pieces size list).flatten = list := by
  induction list using pieces_induction size with
  | nil => rw [pieces_nil]; rfl
  | cut list hlist ih => rw [pieces_of_ne_nil hlist, List.flatten_cons, ih, List.take_append_drop]

theorem length_pieces (list : List Element) :
    (pieces size list).length = (list.length + size - 1) / size := by
  have hsize := NeZero.pos size
  induction list using pieces_induction size with
  | nil =>
      rw [pieces_nil, List.length_nil, List.length_nil, Nat.zero_add]
      exact (Nat.div_eq_of_lt (by omega)).symm
  | cut list hlist ih =>
      have hpos := List.length_pos_iff.mpr hlist
      rw [pieces_of_ne_nil hlist, List.length_cons, ih, List.length_drop]
      by_cases hlong : size ≤ list.length
      · calc (list.length - size + size - 1) / size + 1
            = (list.length - 1 + size) / size := by
              rw [Nat.add_div_right _ hsize, Nat.sub_add_cancel hlong]
          _ = (list.length + size - 1) / size := by
              congr 1
              omega
      · have hzero : (list.length - size + size - 1) / size = 0 := Nat.div_eq_of_lt (by omega)
        have hone : (list.length + size - 1) / size = 1 := by
          rw [show list.length + size - 1 = list.length - 1 + size by omega,
            Nat.add_div_right _ hsize, Nat.div_eq_of_lt (by omega)]
        rw [hzero, hone]

theorem ne_nil_and_length_le_of_mem {piece : List Element} (h : piece ∈ pieces size list) :
    piece ≠ [] ∧ piece.length ≤ size := by
  induction list using pieces_induction size with
  | nil => simp at h
  | cut list hlist ih =>
      rw [pieces_of_ne_nil hlist, List.mem_cons] at h
      rcases h with rfl | h
      · refine ⟨?_, List.length_take_le _ _⟩
        simpa [NeZero.ne size] using hlist
      · exact ih h

/-- Only the last piece may be smaller than the others. -/
theorem length_of_mem_dropLast {piece : List Element} (h : piece ∈ (pieces size list).dropLast) :
    piece.length = size := by
  induction list using pieces_induction size with
  | nil => simp at h
  | cut list hlist ih =>
      rw [pieces_of_ne_nil hlist] at h
      by_cases hrest : pieces size (list.drop size) = []
      · rw [hrest] at h
        cases h
      · rw [List.dropLast_cons_of_ne_nil hrest, List.mem_cons] at h
        rcases h with rfl | h
        · have hdrop : list.drop size ≠ [] := fun hnil ↦ hrest (pieces_eq_nil_iff.mpr hnil)
          have hlong := List.length_pos_iff.mpr hdrop
          rw [List.length_drop] at hlong
          exact List.length_take_of_le (by omega)
        · exact ih h

end EdgeDeviceCore.Data.Pieces
