import EdgeDeviceCore.Semantics.TransitionRun

/-!
# Stores that keep the last write

The contents of a store are a value for some of its keys, and a write replaces the value of one key.
After a list of writes every key has the value that was written to it last. A transition system is
such a store as soon as each of its steps changes the contents by the writes it stands for.
-/

open EdgeDeviceCore.Semantics

namespace EdgeDeviceCore.Data.LastWrite

variable {Key Value : Type} [DecidableEq Key]

def write (contents : Key → Option Value) (entry : Key × Value) : Key → Option Value :=
  Function.update contents entry.1 (some entry.2)

def writeAll (contents : Key → Option Value) (entries : List (Key × Value)) :
    Key → Option Value :=
  entries.foldl write contents

/-- The value of the last entry of a key. -/
def last (key : Key) (entries : List (Key × Value)) : Option Value :=
  (entries.reverse.find? fun entry ↦ entry.1 = key).map Prod.snd

@[simp]
theorem writeAll_nil (contents : Key → Option Value) : writeAll contents [] = contents := rfl

theorem writeAll_append (contents : Key → Option Value) (first later : List (Key × Value)) :
    writeAll contents (first ++ later) = writeAll (writeAll contents first) later :=
  List.foldl_append

@[simp]
theorem last_nil (key : Key) : last key ([] : List (Key × Value)) = none := rfl

theorem last_concat (key : Key) (entries : List (Key × Value)) (entry : Key × Value) :
    last key (entries ++ [entry]) = if entry.1 = key then some entry.2 else last key entries := by
  unfold last
  rw [List.reverse_append, List.reverse_singleton, List.singleton_append, List.find?_cons]
  by_cases h : entry.1 = key <;> simp [h]

/-- A key has the value of its last entry, or the one it had before. -/
theorem writeAll_apply (contents : Key → Option Value) (entries : List (Key × Value)) (key : Key) :
    writeAll contents entries key = (last key entries).or (contents key) := by
  induction entries using List.reverseRecOn with
  | nil => rfl
  | append_singleton entries entry ih =>
      rw [writeAll_append, last_concat]
      change Function.update (writeAll contents entries) entry.1 (some entry.2) key = _
      by_cases h : entry.1 = key
      · rw [if_pos h, ← h, Function.update_self]
        rfl
      · rw [if_neg h, Function.update_of_ne (Ne.symm h), ih]

section Runs

variable {State Action : Type} {step : State → Action → Option State}

/-- What each step does to the value of a key, a run does entry after entry. -/
theorem apply_run (view : State → Key → Option Value) (entries : Action → List (Key × Value))
    (Allowed : Action → Prop) (key : Key)
    (hstep : ∀ state action after, Allowed action → step state action = some after →
      view after key = (last key (entries action)).or (view state key))
    {initial after : State} {actions : List Action} (hallowed : ∀ action ∈ actions, Allowed action)
    (hrun : TransitionRun.run step initial actions = some after) :
    view after key = (last key (actions.flatMap entries)).or (view initial key) := by
  induction actions using List.reverseRecOn generalizing after with
  | nil =>
      obtain rfl := Option.some.inj hrun
      rfl
  | append_singleton actions action ih =>
      obtain ⟨middle, hmiddle, hlast⟩ := TransitionRun.run_concat.mp hrun
      have hbefore := ih (fun action hmem ↦ hallowed action (List.mem_append_left _ hmem)) hmiddle
      calc view after key
          = (last key (entries action)).or (view middle key) :=
            hstep middle action after (hallowed action (by simp)) hlast
        _ = writeAll (writeAll (view initial) (actions.flatMap entries)) (entries action) key := by
            rw [hbefore, writeAll_apply, writeAll_apply]
        _ = (last key ((actions ++ [action]).flatMap entries)).or (view initial key) := by
            rw [← writeAll_append, writeAll_apply, List.flatMap_append, List.flatMap_singleton]

/-- The same for all keys at once. -/
theorem view_run (view : State → Key → Option Value) (entries : Action → List (Key × Value))
    (Allowed : Action → Prop)
    (hstep : ∀ state action after, Allowed action → step state action = some after →
      view after = writeAll (view state) (entries action))
    {initial after : State} {actions : List Action} (hallowed : ∀ action ∈ actions, Allowed action)
    (hrun : TransitionRun.run step initial actions = some after) :
    view after = writeAll (view initial) (actions.flatMap entries) := by
  funext key
  rw [writeAll_apply]
  apply apply_run view entries Allowed key _ hallowed hrun
  intro state action later haction hlater
  rw [hstep state action later haction hlater, writeAll_apply]

end Runs

end EdgeDeviceCore.Data.LastWrite
