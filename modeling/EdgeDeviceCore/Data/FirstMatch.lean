import Mathlib

/-!
# Keyed arrays searched from the front

Entries are appended without a look-up, so that several entries may carry one key, and a search
returns the first of them. Under that discipline a key keeps the entry it was first appended
with, and an update in place through the found position is seen by that key alone.
-/

namespace EdgeDeviceCore.Data.FirstMatch

variable {Entry Key : Type*} [DecidableEq Key] (key : Entry → Key)

/-- The position of the first entry with the wanted key. -/
def index (wanted : Key) (entries : List Entry) : Option (Fin entries.length) :=
  entries.findFinIdx? fun entry ↦ key entry = wanted

/-- The first entry with the wanted key. -/
def lookup (wanted : Key) (entries : List Entry) : Option Entry :=
  entries.find? fun entry ↦ key entry = wanted

variable {key} {wanted other : Key} {entries : List Entry}

theorem lookup_eq_map_index :
    lookup key wanted entries = (index key wanted entries).map entries.get := by
  unfold lookup index
  exact List.find?_eq_map_findFinIdx?_getElem

theorem lookup_eq_some_of_index {position : Fin entries.length}
    (h : index key wanted entries = some position) :
    lookup key wanted entries = some (entries.get position) := by
  rw [lookup_eq_map_index, h]
  rfl

theorem index_eq_none_iff_lookup :
    index key wanted entries = none ↔ lookup key wanted entries = none := by
  rw [lookup_eq_map_index, Option.map_eq_none_iff]

@[simp]
theorem lookup_nil : lookup key wanted [] = none := rfl

theorem lookup_cons (entry : Entry) :
    lookup key wanted (entry :: entries) =
      if key entry = wanted then some entry else lookup key wanted entries := by
  by_cases h : key entry = wanted <;> simp [lookup, h]

theorem lookup_eq_none_iff :
    lookup key wanted entries = none ↔ ∀ entry ∈ entries, key entry ≠ wanted := by
  simp [lookup]

/-- An appended entry is found only where its key had none before. -/
theorem lookup_concat (entry : Entry) :
    lookup key wanted (entries ++ [entry]) =
      (lookup key wanted entries).or (if key entry = wanted then some entry else none) := by
  rw [lookup, List.find?_append]
  congr 1
  exact lookup_cons entry

theorem index_cons (entry : Entry) :
    index key wanted (entry :: entries) =
      if key entry = wanted then some 0 else (index key wanted entries).map Fin.succ := by
  by_cases h : key entry = wanted <;> simp [index, List.findFinIdx?_cons, h]

/-- An update through the found position, when it keeps the key, is seen by that key alone. -/
theorem lookup_modify (other : Key) {position : Fin entries.length} (update : Entry → Entry)
    (h : index key wanted entries = some position)
    (hkey : ∀ entry, key (update entry) = key entry) :
    lookup key other (entries.modify position update) =
      if other = wanted then (lookup key other entries).map update
      else lookup key other entries := by
  induction entries with
  | nil => exact position.elim0
  | cons entry entries ih =>
      rw [index_cons] at h
      by_cases hentry : key entry = wanted
      · rw [if_pos hentry] at h
        obtain rfl := Option.some.inj h
        have hmodify : (entry :: entries).modify (0 : Fin (entries.length + 1)) update =
            update entry :: entries := rfl
        rw [hmodify, lookup_cons, lookup_cons, hkey, hentry]
        by_cases hother : other = wanted
        · rw [if_pos hother, if_pos hother.symm, if_pos hother.symm]
          rfl
        · rw [if_neg hother, if_neg (Ne.symm hother), if_neg (Ne.symm hother)]
      · rw [if_neg hentry] at h
        obtain ⟨previous, hprevious, rfl⟩ := Option.map_eq_some_iff.mp h
        have hmodify : (entry :: entries).modify (previous.succ : Fin (entries.length + 1)) update =
            entry :: entries.modify previous update := rfl
        rw [hmodify, lookup_cons, lookup_cons, ih hprevious]
        by_cases hother : other = wanted
        · subst hother
          simp only [hentry, if_false, if_true]
        · simp only [hother, if_false]

end EdgeDeviceCore.Data.FirstMatch
