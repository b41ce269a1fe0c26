import Mathlib

/-!
# Bounded maps that report their changes

A map takes a bounded number of registrations, each of which gives an initial value to a key that
has none. Assigning to a registered key replaces its value, and reports the new value exactly when
it differs from the old one. A key's reports are therefore its assignments with consecutive
repeats removed, whatever happened to the other keys in between.
-/

namespace EdgeDeviceCore.Data

/-- The accepted registrations, the current values, and the reports in order. -/
structure NotifyingMap (Key Value : Type*) where
  accepted : ℕ
  value : Key → Option Value
  reports : List (Key × Value)

namespace NotifyingMap

variable {Key Value : Type*}

inductive Call (Key Value : Type*) where
  | register (key : Key) (initial : Value)
  | assign (key : Key) (value : Value)

def empty : NotifyingMap Key Value := ⟨0, fun _ ↦ none, []⟩

variable [DecidableEq Key] [DecidableEq Value] (capacity : ℕ)

def register (key : Key) (initial : Value) (map : NotifyingMap Key Value) :
    NotifyingMap Key Value :=
  if map.accepted < capacity then
    { map with
      accepted := map.accepted + 1
      value := fun other ↦ (map.value other).or (if key = other then some initial else none) }
  else
    map

def assign (key : Key) (value : Value) (map : NotifyingMap Key Value) :
    NotifyingMap Key Value :=
  match map.value key with
  | none => map
  | some old =>
      if old = value then map
      else
        { map with
          value := Function.update map.value key (some value)
          reports := map.reports ++ [(key, value)] }

def perform (map : NotifyingMap Key Value) : Call Key Value → NotifyingMap Key Value
  | .register key initial => register capacity key initial map
  | .assign key value => assign key value map

def run (calls : List (Call Key Value)) : NotifyingMap Key Value :=
  calls.foldl (perform capacity) empty

/-! ## The history of one key -/

/-- The number of registrations among the calls. -/
def registrations (calls : List (Call Key Value)) : ℕ :=
  calls.countP fun
    | .register _ _ => true
    | .assign _ _ => false

/-- The values assigned to a key. -/
def assignments (key : Key) (calls : List (Call Key Value)) : List Value :=
  calls.filterMap fun
    | .register _ _ => none
    | .assign other value => if other = key then some value else none

/-- The initial value of a key's first accepted registration and the values assigned to the key
since, when `used` registrations came before the calls. -/
def history (key : Key) : ℕ → List (Call Key Value) → Option (Value × List Value)
  | _, [] => none
  | used, .register other initial :: calls =>
      if used < capacity ∧ other = key then some (initial, assignments key calls)
      else history key (used + 1) calls
  | used, .assign _ _ :: calls => history key used calls

/-- The values reported for a key. -/
def reportsOf (key : Key) (reports : List (Key × Value)) : List Value :=
  reports.filterMap fun report ↦ if report.1 = key then some report.2 else none

variable {capacity} {key : Key}

omit [DecidableEq Value] in
theorem history_concat (used : ℕ) (calls : List (Call Key Value)) (call : Call Key Value) :
    history capacity key used (calls ++ [call]) =
      match history capacity key used calls with
      | some (initial, values) => some (initial, values ++ assignments key [call])
      | none =>
          match call with
          | .register other initial =>
              if used + registrations calls < capacity ∧ other = key then some (initial, []) else none
          | .assign _ _ => none := by
  induction calls generalizing used with
  | nil =>
      cases call with
      | register other initial => simp [history, registrations, assignments]
      | assign other value => simp [history]
  | cons head calls ih =>
      cases head with
      | register other initial =>
          by_cases haccepted : used < capacity ∧ other = key
          · simp only [List.cons_append, history, if_pos haccepted, assignments,
              List.filterMap_append]
          · have hcount : registrations (.register other initial :: calls) =
                registrations calls + 1 := by simp [registrations]
            simp only [List.cons_append, history, if_neg haccepted, ih (used + 1), hcount,
              Nat.add_right_comm used 1, Nat.add_assoc used]
      | assign other value =>
          have hcount : registrations (.assign other value :: calls) = registrations calls := by
            simp [registrations]
          simp only [List.cons_append, history, ih used, hcount]

variable {map : NotifyingMap Key Value} {other : Key} {value : Value}

omit [DecidableEq Value] in
theorem value_register (initial : Value) :
    (register capacity other initial map).value key =
      (map.value key).or
        (if map.accepted < capacity ∧ other = key then some initial else none) := by
  unfold register
  by_cases hroom : map.accepted < capacity <;> simp [hroom]

theorem value_assign :
    (assign other value map).value key =
      if key = other then (map.value other).map fun _ ↦ value else map.value key := by
  unfold assign
  by_cases hkey : key = other
  · subst hkey
    cases hold : map.value key with
    | none => simp [hold]
    | some old => by_cases hsame : old = value <;> simp [hold, hsame]
  · rw [if_neg hkey]
    split
    · rfl
    · split
      · rfl
      · exact Function.update_of_ne hkey _ _

/-- An assignment is reported exactly when it changes the value of its key. -/
theorem reports_assign :
    (assign other value map).reports =
      map.reports ++
        (if (assign other value map).value other = map.value other then []
          else [(other, value)]) := by
  rw [value_assign, if_pos rfl, assign]
  cases hold : map.value other with
  | none => simp
  | some old => by_cases hsame : old = value <;> simp [hsame, Ne.symm]

/-! ## Whole runs -/

theorem run_concat (calls : List (Call Key Value)) (call : Call Key Value) :
    run capacity (calls ++ [call]) = perform capacity (run capacity calls) call :=
  List.foldl_concat _ _ _ _

/-- Exactly the first `capacity` registrations are accepted. -/
theorem accepted_run (calls : List (Call Key Value)) :
    (run capacity calls).accepted = min (registrations calls) capacity := by
  induction calls using List.reverseRecOn with
  | nil => simp [run, registrations, empty]
  | append_singleton calls call ih =>
      rw [run_concat]
      cases call with
      | register other initial =>
          have hcount : registrations (calls ++ [.register other initial]) =
              registrations calls + 1 := by simp [registrations]
          rw [hcount, perform, register]
          split
          · simp only
            omega
          · omega
      | assign other value =>
          have hcount : registrations (calls ++ [.assign other value]) = registrations calls := by
            simp [registrations]
          rw [hcount, perform, assign, ← ih]
          split
          · rfl
          · split <;> rfl

/-- A key holds what was last assigned to it since its registration. -/
theorem value_run (capacity : ℕ) (key : Key) (calls : List (Call Key Value)) :
    (run capacity calls).value key =
      (history capacity key 0 calls).map fun past ↦ past.2.getLastD past.1 := by
  induction calls using List.reverseRecOn with
  | nil => rfl
  | append_singleton calls call ih =>
      rw [run_concat, history_concat, Nat.zero_add]
      cases call with
      | register other initial =>
          have hroom :
              (run capacity calls).accepted < capacity ↔ registrations calls < capacity := by
            rw [accepted_run]
            omega
          simp only [perform, value_register, ih, hroom]
          cases history capacity key 0 calls with
          | none =>
              simp only [Option.map_none, Option.none_or]
              split <;> rfl
          | some past => simp [assignments]
      | assign other value =>
          rw [perform, value_assign]
          by_cases hkey : key = other
          · subst hkey
            rw [if_pos rfl, ih]
            cases history capacity key 0 calls <;> simp [assignments]
          · rw [if_neg hkey, ih]
            cases history capacity key 0 calls <;> simp [assignments, Ne.symm hkey]

omit [DecidableEq Key] in
/-- Removing consecutive repeats after one more value keeps it exactly when it differs from the
last value. -/
theorem destutter'_concat_ne (first last : Value) (values : List Value) :
    (values ++ [last]).destutter' (· ≠ ·) first =
      values.destutter' (· ≠ ·) first ++ if values.getLastD first = last then [] else [last] := by
  induction values generalizing first with
  | nil => by_cases h : first = last <;> simp [h]
  | cons head values ih =>
      by_cases h : first = head
      · subst h
        have hfirst : ¬ first ≠ first := fun hne ↦ hne rfl
        rw [List.cons_append, List.destutter'_cons_neg _ hfirst, List.destutter'_cons_neg _ hfirst,
          ih first, List.getLastD_cons]
      · rw [List.cons_append, List.destutter'_cons_pos _ h, List.destutter'_cons_pos _ h, ih head,
          List.getLastD_cons, List.cons_append]

omit [DecidableEq Key] in
theorem getLast?_destutter'_ne (first : Value) (values : List Value) :
    (values.destutter' (· ≠ ·) first).getLast? = some (values.getLastD first) := by
  induction values using List.reverseRecOn with
  | nil => rfl
  | append_singleton values last ih =>
      rw [destutter'_concat_ne]
      by_cases h : values.getLastD first = last
      · rw [if_pos h, List.append_nil, ih, h, List.getLastD_concat]
      · rw [if_neg h, List.getLast?_concat, List.getLastD_concat]

/-- **Change reports.** A key's initial value followed by its reports is its initial value followed
by its assignments, with consecutive repeats removed; an unregistered key has no reports. -/
theorem reports_run (capacity : ℕ) (key : Key) (calls : List (Call Key Value)) :
    match history capacity key 0 calls with
    | none => reportsOf key (run capacity calls).reports = []
    | some past =>
        past.1 :: reportsOf key (run capacity calls).reports =
          (past.1 :: past.2).destutter (· ≠ ·) := by
  induction calls using List.reverseRecOn with
  | nil => rfl
  | append_singleton calls call ih =>
      have hvalue := value_run capacity key calls
      rw [run_concat, history_concat, Nat.zero_add]
      cases call with
      | register other initial =>
          have hreports :
              (perform capacity (run capacity calls) (.register other initial)).reports =
                (run capacity calls).reports := by
            rw [perform, register]
            split <;> rfl
          rw [hreports]
          cases hpast : history capacity key 0 calls with
          | none =>
              rw [hpast] at ih
              by_cases haccepted : registrations calls < capacity ∧ other = key
              · simpa only [if_pos haccepted, List.destutter_singleton, List.cons.injEq, true_and]
              · simpa only [if_neg haccepted]
          | some past =>
              rw [hpast] at ih
              simpa [assignments] using ih
      | assign other value =>
          rw [perform, reports_assign, value_assign, if_pos rfl]
          by_cases hkey : other = key
          · subst hkey
            cases hpast : history capacity other 0 calls with
            | none =>
                rw [hpast] at ih hvalue
                simpa [hvalue] using ih
            | some past =>
                rw [hpast] at ih hvalue
                have hconcat := destutter'_concat_ne past.1 value past.2
                simp only [List.destutter_cons'] at ih
                simp only [hvalue, assignments, Option.map_some, Option.some.injEq, reportsOf,
                  List.filterMap_append, List.filterMap_cons, List.filterMap_nil, if_true,
                  List.destutter_cons', hconcat, ← ih, List.cons_append,
                  eq_comm (a := value)]
                congr 2
                split <;> simp
          · have hskip (extra : List (Key × Value)) (h : ∀ report ∈ extra, report.1 = other) :
                reportsOf key ((run capacity calls).reports ++ extra) =
                  reportsOf key (run capacity calls).reports := by
              rw [reportsOf, List.filterMap_append]
              have hnone : extra.filterMap
                  (fun report ↦ if report.1 = key then some report.2 else none) = [] := by
                rw [List.filterMap_eq_nil_iff]
                intro report hreport
                rw [h report hreport, if_neg hkey]
              rw [hnone, List.append_nil]
              rfl
            rw [hskip _ (by split <;> simp)]
            cases hpast : history capacity key 0 calls with
            | none =>
                rw [hpast] at ih
                exact ih
            | some past =>
                rw [hpast] at ih
                simpa [assignments, hkey] using ih

/-- A registered key holds its last report, or its initial value while it has none. -/
theorem value_run_eq_last_report (calls : List (Call Key Value)) :
    (run capacity calls).value key =
      (history capacity key 0 calls).map fun past ↦
        (reportsOf key (run capacity calls).reports).getLastD past.1 := by
  have hreports := reports_run capacity key calls
  rw [value_run]
  cases hpast : history capacity key 0 calls with
  | none => rfl
  | some past =>
      rw [hpast] at hreports
      simp only [List.destutter_cons'] at hreports
      have hlast := getLast?_destutter'_ne past.1 past.2
      rw [← hreports, List.getLast?_cons] at hlast
      simp only [Option.map_some, List.getLastD_eq_getLast?]
      rw [← List.getLastD_eq_getLast?]
      exact hlast.symm

end NotifyingMap

end EdgeDeviceCore.Data
