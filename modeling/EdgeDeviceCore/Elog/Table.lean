import EdgeDeviceCore.Data.FirstMatch
import EdgeDeviceCore.Platform.Errno

/-!
# The elog table of `log.c`

`elog_array` is filled from the front by `SystemRegElog` and searched from the front by
`component_to_entry`; `SystemSetELog` writes an event through `UtilityLogWriteELog` whenever it
changes a stored code. Each operation holds `elog_entry_mutex` throughout, so each is one state
transformer here.

The status of every write is an input: `utilityLogWriteELog n` is what the `n`-th call of
`UtilityLogWriteELog` returns, and a state records the calls made so far.
-/

open EdgeDeviceCore.Platform

namespace EdgeDeviceCore.Elog

open Data

/-- `struct elog_entry`. -/
structure ElogEntry where
  component : BitVec 8
  code : BitVec 8
  updated : Bool
  msg : String
deriving DecidableEq, Repr

/-- `MAX_ELOG_ENTRY`. -/
def maxElogEntry : ℕ := 128

/-- `ELOG_ERR`, what a read of an unregistered component returns. -/
def elogErr : BitVec 8 := 0xFF#8

/-- The live part of `elog_array`. Its length is `last`, which never passes the array's end. -/
structure ElogTable where
  elogArray : List ElogEntry
  last_le : elogArray.length ≤ maxElogEntry
deriving DecidableEq

/-- The statuses of `UtilityLogWriteELog`; the sources only tell `kUtilityLogStatusOk` apart. -/
inductive UtilityLogStatus where
  | ok
  | failed (status : ℕ)
deriving DecidableEq, Repr

/-- One call of `UtilityLogWriteELog` at the warning level. -/
structure ElogWrite where
  eventId : BitVec 16
  status : UtilityLogStatus
deriving DecidableEq, Repr

/-- The table, and the calls of `UtilityLogWriteELog` made so far. -/
structure ElogState where
  table : ElogTable
  writes : List ElogWrite
deriving DecidableEq

namespace ElogTable

def empty : ElogTable := ⟨[], Nat.zero_le _⟩

def push (table : ElogTable) (entry : ElogEntry)
    (h : table.elogArray.length < maxElogEntry) : ElogTable where
  elogArray := table.elogArray ++ [entry]
  last_le := by
    rw [List.length_append, List.length_singleton]
    exact h

/-- Update one slot in place. -/
def modify (table : ElogTable) (slot : Fin table.elogArray.length)
    (update : ElogEntry → ElogEntry) : ElogTable where
  elogArray := table.elogArray.modify slot update
  last_le := by
    rw [List.length_modify]
    exact table.last_le

/-- `component_to_entry`: the first live slot of a component. -/
def componentToEntry (table : ElogTable) (component : BitVec 8) :
    Option (Fin table.elogArray.length) :=
  FirstMatch.index ElogEntry.component component table.elogArray

/-- The code stored for a component, if it is registered. -/
def code? (table : ElogTable) (component : BitVec 8) : Option (BitVec 8) :=
  (FirstMatch.lookup ElogEntry.component component table.elogArray).map ElogEntry.code

end ElogTable

def ElogState.initial : ElogState := ⟨ElogTable.empty, []⟩

/-- The code stored for a component, if it is registered. -/
def ElogState.code? (state : ElogState) (component : BitVec 8) : Option (BitVec 8) :=
  state.table.code? component

/-- The event id of a code: the component in the high byte, the code in the low byte. -/
def eventId (component code : BitVec 8) : BitVec 16 :=
  (component.setWidth 16 <<< 8) ||| code.setWidth 16

def systemRegElog (component initValue : BitVec 8) (msg : String) (state : ElogState) :
    ElogState :=
  if h : state.table.elogArray.length < maxElogEntry then
    { state with table := state.table.push ⟨component, initValue, false, msg⟩ h }
  else
    state

def systemSetELog [Errno] (utilityLogWriteELog : ℕ → UtilityLogStatus)
    (component code : BitVec 8) (state : ElogState) : ℤ × ElogState :=
  match state.table.componentToEntry component with
  | some entry =>
      if (state.table.elogArray.get entry).code ≠ code then
        let status := utilityLogWriteELog state.writes.length
        let ret := if status ≠ .ok then -Errno.value .ENOENT else 0
        -- `updated` is only raised while the write is under way, inside the critical section.
        (ret, ⟨state.table.modify entry fun slot ↦ { slot with code := code, updated := false },
          state.writes ++ [⟨eventId component code, status⟩]⟩)
      else
        (0, state)
  | none => (-Errno.value .ENOENT, state)

def systemGetELog (component : BitVec 8) (state : ElogState) : BitVec 8 :=
  match state.table.componentToEntry component with
  | some entry => (state.table.elogArray.get entry).code
  | none => elogErr

/-! ## What each operation does to the stored codes -/

namespace ElogTable

variable {table : ElogTable} {component other : BitVec 8}

theorem code?_eq_some_of_entry {entry : Fin table.elogArray.length}
    (h : table.componentToEntry component = some entry) :
    table.code? component = some (table.elogArray.get entry).code := by
  rw [code?, FirstMatch.lookup_eq_some_of_index h]
  rfl

theorem code?_eq_none_iff :
    table.code? component = none ↔ table.componentToEntry component = none := by
  rw [code?, Option.map_eq_none_iff, componentToEntry, FirstMatch.index_eq_none_iff_lookup]

@[simp]
theorem code?_empty : empty.code? component = none := rfl

theorem code?_push (entry : ElogEntry) (h : table.elogArray.length < maxElogEntry) :
    (table.push entry h).code? component =
      (table.code? component).or
        (if entry.component = component then some entry.code else none) := by
  simp only [code?, push, FirstMatch.lookup_concat]
  cases FirstMatch.lookup ElogEntry.component component table.elogArray with
  | none => by_cases hcomponent : entry.component = component <;> simp [hcomponent]
  | some found => rfl

theorem code?_modify {entry : Fin table.elogArray.length} {code : BitVec 8} {updated : Bool}
    (h : table.componentToEntry component = some entry) :
    (table.modify entry fun slot ↦ { slot with code := code, updated := updated }).code? other =
      if other = component then some code else table.code? other := by
  have hindex : FirstMatch.index ElogEntry.component component table.elogArray = some entry := h
  have hlookup := FirstMatch.lookup_modify other
    (fun slot ↦ { slot with code := code, updated := updated }) hindex fun _ ↦ rfl
  simp only [code?, modify, hlookup]
  by_cases hother : other = component
  · subst hother
    rw [if_pos rfl, if_pos rfl, FirstMatch.lookup_eq_some_of_index h]
    rfl
  · rw [if_neg hother, if_neg hother]

end ElogTable

section Operations

variable {state : ElogState} {component other code : BitVec 8}

theorem systemGetELog_eq (component : BitVec 8) (state : ElogState) :
    systemGetELog component state = (state.code? component).getD elogErr := by
  unfold systemGetELog ElogState.code?
  cases h : state.table.componentToEntry component with
  | none => rw [ElogTable.code?_eq_none_iff.mpr h]; rfl
  | some entry => rw [ElogTable.code?_eq_some_of_entry h]; rfl

theorem systemRegElog_of_room (initValue : BitVec 8) (msg : String)
    (h : state.table.elogArray.length < maxElogEntry) :
    systemRegElog component initValue msg state =
      { state with table := state.table.push ⟨component, initValue, false, msg⟩ h } :=
  dif_pos h

theorem systemRegElog_of_full (initValue : BitVec 8) (msg : String)
    (h : maxElogEntry ≤ state.table.elogArray.length) :
    systemRegElog component initValue msg state = state :=
  dif_neg (Nat.not_lt.mpr h)

@[simp]
theorem systemRegElog_writes (initValue : BitVec 8) (msg : String) :
    (systemRegElog component initValue msg state).writes = state.writes := by
  unfold systemRegElog
  split <;> rfl

/-- A registration gives its initial value to a component that had no slot, while slots last. -/
theorem code?_systemRegElog (initValue : BitVec 8) (msg : String) :
    (systemRegElog component initValue msg state).code? other =
      (state.code? other).or
        (if state.table.elogArray.length < maxElogEntry ∧ component = other
          then some initValue else none) := by
  by_cases hroom : state.table.elogArray.length < maxElogEntry
  · rw [systemRegElog_of_room initValue msg hroom]
    simp only [ElogState.code?, ElogTable.code?_push, hroom, true_and]
  · rw [systemRegElog_of_full initValue msg (Nat.not_lt.mp hroom)]
    simp only [hroom, false_and, if_false, Option.or_none]

theorem code?_systemRegElog_of_some {stored : BitVec 8} (initValue : BitVec 8) (msg : String)
    (h : state.code? other = some stored) :
    (systemRegElog component initValue msg state).code? other = some stored := by
  rw [code?_systemRegElog, h]
  rfl

section SetELog

variable [Errno] (utilityLogWriteELog : ℕ → UtilityLogStatus)

/-- Setting an unregistered component is refused. -/
theorem systemSetELog_of_none (h : state.code? component = none) :
    systemSetELog utilityLogWriteELog component code state = (-Errno.value .ENOENT, state) := by
  unfold systemSetELog
  rw [ElogTable.code?_eq_none_iff.mp h]

/-- Setting the stored code again does nothing and succeeds. -/
theorem systemSetELog_of_same (h : state.code? component = some code) :
    systemSetELog utilityLogWriteELog component code state = (0, state) := by
  unfold systemSetELog
  cases hentry : state.table.componentToEntry component with
  | none =>
      rw [ElogState.code?, ElogTable.code?_eq_none_iff.mpr hentry] at h
      cases h
  | some entry =>
      rw [ElogState.code?, ElogTable.code?_eq_some_of_entry hentry] at h
      simp only [Option.some.inj h, ne_eq, not_true_eq_false, if_false]

/-- Setting another code writes one event, whose status decides the result. -/
theorem systemSetELog_of_changed {stored : BitVec 8} (h : state.code? component = some stored)
    (hne : stored ≠ code) :
    (systemSetELog utilityLogWriteELog component code state).1 =
        (if utilityLogWriteELog state.writes.length ≠ .ok then -Errno.value .ENOENT else 0) ∧
      (systemSetELog utilityLogWriteELog component code state).2.writes =
        state.writes ++ [⟨eventId component code, utilityLogWriteELog state.writes.length⟩] := by
  unfold systemSetELog
  cases hentry : state.table.componentToEntry component with
  | none =>
      rw [ElogState.code?, ElogTable.code?_eq_none_iff.mpr hentry] at h
      cases h
  | some entry =>
      rw [ElogState.code?, ElogTable.code?_eq_some_of_entry hentry] at h
      obtain rfl := Option.some.inj h
      simp only [hne, ne_eq, not_false_eq_true, if_true, and_self]

/-- A set reaches its own component, when registered, and no other. -/
theorem code?_systemSetELog :
    (systemSetELog utilityLogWriteELog component code state).2.code? other =
      if other = component then (state.code? component).map fun _ ↦ code
      else state.code? other := by
  cases hstored : state.code? component with
  | none =>
      rw [systemSetELog_of_none utilityLogWriteELog hstored]
      by_cases hother : other = component
      · rw [if_pos hother, hother, hstored]
        rfl
      · rw [if_neg hother]
  | some stored =>
      by_cases hsame : stored = code
      · subst hsame
        rw [systemSetELog_of_same utilityLogWriteELog hstored]
        by_cases hother : other = component
        · rw [if_pos hother, hother, hstored]
          rfl
        · rw [if_neg hother]
      · unfold systemSetELog
        cases hentry : state.table.componentToEntry component with
        | none =>
            rw [ElogState.code?, ElogTable.code?_eq_none_iff.mpr hentry] at hstored
            cases hstored
        | some entry =>
            rw [ElogState.code?, ElogTable.code?_eq_some_of_entry hentry] at hstored
            obtain rfl := Option.some.inj hstored
            simp only [hsame, ne_eq, not_false_eq_true, if_true]
            exact ElogTable.code?_modify hentry

@[simp]
theorem length_elogArray_systemSetELog :
    (systemSetELog utilityLogWriteELog component code state).2.table.elogArray.length =
      state.table.elogArray.length := by
  unfold systemSetELog
  split
  · split
    · exact List.length_modify ..
    · rfl
  · rfl

end SetELog

end Operations

/-! ## Event ids -/

theorem eventId_toNat (component code : BitVec 8) :
    (eventId component code).toNat = 256 * component.toNat + code.toNat := by
  have happend : eventId component code = component ++ code := by
    rw [eventId, BitVec.append_def, BitVec.shiftLeftZeroExtend_eq, BitVec.setWidth'_eq]
  rw [happend, BitVec.toNat_append, ← Nat.shiftLeft_add_eq_or_of_lt code.isLt, Nat.shiftLeft_eq]
  omega

/-- The component of an event id. -/
def ElogWrite.component (write : ElogWrite) : BitVec 8 := write.eventId.extractLsb' 8 8

/-- The code of an event id. -/
def ElogWrite.code (write : ElogWrite) : BitVec 8 := write.eventId.extractLsb' 0 8

@[simp]
theorem component_eventId (component code : BitVec 8) (status : UtilityLogStatus) :
    (⟨eventId component code, status⟩ : ElogWrite).component = component := by
  apply BitVec.eq_of_toNat_eq
  rw [ElogWrite.component, BitVec.extractLsb'_toNat, eventId_toNat, Nat.shiftRight_eq_div_pow]
  have hcomponent := component.isLt
  have hcode := code.isLt
  omega

@[simp]
theorem code_eventId (component code : BitVec 8) (status : UtilityLogStatus) :
    (⟨eventId component code, status⟩ : ElogWrite).code = code := by
  apply BitVec.eq_of_toNat_eq
  rw [ElogWrite.code, BitVec.extractLsb'_toNat, eventId_toNat, Nat.shiftRight_eq_div_pow]
  have hcode := code.isLt
  omega

/-- The event writes attempted for a component. -/
def writesOf (component : BitVec 8) (writes : List ElogWrite) : List ElogWrite :=
  writes.filter fun write ↦ write.component = component

theorem writesOf_concat {component : BitVec 8} {writes : List ElogWrite} (write : ElogWrite) :
    writesOf component (writes ++ [write]) =
      writesOf component writes ++ if write.component = component then [write] else [] := by
  rw [writesOf, List.filter_append]
  by_cases h : write.component = component <;> simp [writesOf, h]

section WritesOf

variable [Errno] (utilityLogWriteELog : ℕ → UtilityLogStatus) {state : ElogState}
  {component other code : BitVec 8}

/-- A set of another component writes no event for this one. -/
theorem writesOf_systemSetELog_of_ne (h : other ≠ component) :
    writesOf component (systemSetELog utilityLogWriteELog other code state).2.writes =
      writesOf component state.writes := by
  cases hstored : state.code? other with
  | none => rw [systemSetELog_of_none utilityLogWriteELog hstored]
  | some stored =>
      by_cases hsame : stored = code
      · rw [systemSetELog_of_same utilityLogWriteELog (hsame ▸ hstored)]
      · rw [(systemSetELog_of_changed utilityLogWriteELog hstored hsame).2, writesOf_concat,
          component_eventId, if_neg h, List.append_nil]

/-- A change of the stored code writes one event. -/
theorem writesOf_systemSetELog_of_changed {stored : BitVec 8}
    (h : state.code? component = some stored) (hne : stored ≠ code) :
    writesOf component (systemSetELog utilityLogWriteELog component code state).2.writes =
      writesOf component state.writes ++
        [⟨eventId component code, utilityLogWriteELog state.writes.length⟩] := by
  rw [(systemSetELog_of_changed utilityLogWriteELog h hne).2, writesOf_concat, component_eventId,
    if_pos rfl]

end WritesOf

end EdgeDeviceCore.Elog
