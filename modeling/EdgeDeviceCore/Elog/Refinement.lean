import EdgeDeviceCore.Data.NotifyingMap
import EdgeDeviceCore.Elog.Table

/-!
# The elog table refines a bounded map that reports its changes

Reading a table as its live length, its stored codes and the codes of its event writes gives a
bounded map in the sense of `NotifyingMap`, and each operation of `log.c` is the map's operation
under that reading, whatever `UtilityLogWriteELog` returns.
-/

open EdgeDeviceCore.Platform EdgeDeviceCore.Data

namespace EdgeDeviceCore.Elog

/-- One call of the elog interface. -/
inductive ElogCall where
  | reg (component initValue : BitVec 8) (msg : String)
  | set (component code : BitVec 8)
  | get (component : BitVec 8)
deriving DecidableEq, Repr

variable [Errno] (utilityLogWriteELog : ℕ → UtilityLogStatus)

def ElogState.perform (state : ElogState) : ElogCall → ElogState
  | .reg component initValue msg => systemRegElog component initValue msg state
  | .set component code => (systemSetELog utilityLogWriteELog component code state).2
  | .get _ => state

/-- The state after the calls, made one after another on the empty table. -/
def runCalls (calls : List ElogCall) : ElogState :=
  calls.foldl (ElogState.perform utilityLogWriteELog) ElogState.initial

theorem runCalls_concat (calls : List ElogCall) (call : ElogCall) :
    runCalls utilityLogWriteELog (calls ++ [call]) =
      (runCalls utilityLogWriteELog calls).perform utilityLogWriteELog call :=
  List.foldl_concat _ _ _ _

/-! ## The abstraction -/

def ElogWrite.report (write : ElogWrite) : BitVec 8 × BitVec 8 := (write.component, write.code)

/-- The bounded map that a table stands for. -/
def ElogState.abstraction (state : ElogState) : NotifyingMap (BitVec 8) (BitVec 8) where
  accepted := state.table.elogArray.length
  value := state.code?
  reports := state.writes.map ElogWrite.report

/-- The map operation of a call; reads have none. -/
def ElogCall.abstract? : ElogCall → Option (NotifyingMap.Call (BitVec 8) (BitVec 8))
  | .reg component initValue _ => some (.register component initValue)
  | .set component code => some (.assign component code)
  | .get _ => none

omit [Errno] in
theorem abstraction_systemRegElog (component initValue : BitVec 8) (msg : String)
    (state : ElogState) :
    (systemRegElog component initValue msg state).abstraction =
      NotifyingMap.register maxElogEntry component initValue state.abstraction := by
  unfold NotifyingMap.register
  change _ = if state.table.elogArray.length < maxElogEntry then _ else _
  by_cases hroom : state.table.elogArray.length < maxElogEntry
  · rw [systemRegElog_of_room initValue msg hroom, if_pos hroom]
    simp only [ElogState.abstraction, ElogTable.push, List.length_append, List.length_singleton,
      NotifyingMap.mk.injEq, true_and, and_true]
    funext other
    exact ElogTable.code?_push _ hroom
  · rw [systemRegElog_of_full initValue msg (Nat.not_lt.mp hroom), if_neg hroom]

theorem abstraction_systemSetELog (component code : BitVec 8) (state : ElogState) :
    (systemSetELog utilityLogWriteELog component code state).2.abstraction =
      NotifyingMap.assign component code state.abstraction := by
  unfold NotifyingMap.assign
  cases hstored : state.code? component with
  | none =>
      simp only [systemSetELog_of_none utilityLogWriteELog hstored, ElogState.abstraction, hstored]
  | some stored =>
      by_cases hsame : stored = code
      · subst hsame
        simp only [systemSetELog_of_same utilityLogWriteELog hstored, ElogState.abstraction,
          hstored, if_true]
      · have hwrites := (systemSetELog_of_changed utilityLogWriteELog hstored hsame).2
        have hcodes : (systemSetELog utilityLogWriteELog component code state).2.code? =
            Function.update state.code? component (some code) := by
          funext other
          rw [code?_systemSetELog, hstored, Function.update_apply]
          rfl
        simp only [ElogState.abstraction, length_elogArray_systemSetELog, hcodes, hwrites, hstored,
          if_neg hsame, List.map_append, List.map_singleton, ElogWrite.report,
          component_eventId, code_eventId]

/-- **Refinement.** The table's run is the map's run on the same calls. -/
theorem abstraction_runCalls (calls : List ElogCall) :
    (runCalls utilityLogWriteELog calls).abstraction =
      NotifyingMap.run maxElogEntry (calls.filterMap ElogCall.abstract?) := by
  induction calls using List.reverseRecOn with
  | nil => rfl
  | append_singleton calls call ih =>
      rw [runCalls_concat, List.filterMap_append]
      cases call with
      | reg component initValue msg =>
          rw [ElogState.perform, abstraction_systemRegElog, ih]
          exact (NotifyingMap.run_concat _ (.register component initValue)).symm
      | set component code =>
          rw [ElogState.perform, abstraction_systemSetELog, ih]
          exact (NotifyingMap.run_concat _ (.assign component code)).symm
      | get component =>
          rw [ElogState.perform, ih]
          exact congrArg _ (List.append_nil _).symm

/-! ## The laws of the elog interface -/

/-- The number of `SystemRegElog` calls. -/
def registrations (calls : List ElogCall) : ℕ :=
  NotifyingMap.registrations (calls.filterMap ElogCall.abstract?)

/-- The initial value of a component's first accepted registration, and the codes set since. -/
def history (component : BitVec 8) (calls : List ElogCall) : Option (BitVec 8 × List (BitVec 8)) :=
  NotifyingMap.history maxElogEntry component 0 (calls.filterMap ElogCall.abstract?)

/-- The codes of the event writes attempted for a component. -/
def attemptedCodes (component : BitVec 8) (writes : List ElogWrite) : List (BitVec 8) :=
  writes.filterMap fun write ↦ if write.component = component then some write.code else none

/-- What the elog interface promises after a sequence of calls. -/
structure BoundedMapLaws (calls : List ElogCall) : Prop where
  /-- A registration is accepted while fewer than 128 came before it, -/
  reg_accepted : ∀ component initValue msg, registrations calls < 128 →
    ((runCalls utilityLogWriteELog calls).perform utilityLogWriteELog
        (.reg component initValue msg)).table.elogArray =
      (runCalls utilityLogWriteELog calls).table.elogArray ++ [⟨component, initValue, false, msg⟩]
  /-- and leaves the table unchanged after that. -/
  reg_refused : ∀ component initValue msg, 128 ≤ registrations calls →
    (runCalls utilityLogWriteELog calls).perform utilityLogWriteELog
      (.reg component initValue msg) = runCalls utilityLogWriteELog calls
  get_last_set : ∀ component,
    systemGetELog component (runCalls utilityLogWriteELog calls) =
      match history component calls with
      | some past => past.2.getLastD past.1
      | none => 0xFF#8
  set_other : ∀ component code other, other ≠ component →
    systemGetELog other
        (systemSetELog utilityLogWriteELog component code (runCalls utilityLogWriteELog calls)).2 =
      systemGetELog other (runCalls utilityLogWriteELog calls)
  set_unregistered : ∀ component code, history component calls = none →
    systemSetELog utilityLogWriteELog component code (runCalls utilityLogWriteELog calls) =
      (-Errno.value .ENOENT, runCalls utilityLogWriteELog calls)
  set_attempts : ∀ component code,
    (systemSetELog utilityLogWriteELog component code
        (runCalls utilityLogWriteELog calls)).2.writes =
      (runCalls utilityLogWriteELog calls).writes ++
        if (systemSetELog utilityLogWriteELog component code
              (runCalls utilityLogWriteELog calls)).2.code? component =
            (runCalls utilityLogWriteELog calls).code? component then []
        else [⟨BitVec.ofNat 16 (256 * component.toNat + code.toNat),
          utilityLogWriteELog (runCalls utilityLogWriteELog calls).writes.length⟩]
  attempts_are_changes : ∀ component initial codes, history component calls = some (initial, codes) →
    initial :: attemptedCodes component (runCalls utilityLogWriteELog calls).writes =
      (initial :: codes).destutter (· ≠ ·)

variable (calls : List ElogCall)

theorem length_elogArray_runCalls :
    (runCalls utilityLogWriteELog calls).table.elogArray.length =
      min (registrations calls) maxElogEntry := by
  have h := congrArg NotifyingMap.accepted (abstraction_runCalls utilityLogWriteELog calls)
  rwa [NotifyingMap.accepted_run] at h

theorem code?_runCalls (component : BitVec 8) :
    (runCalls utilityLogWriteELog calls).code? component =
      (history component calls).map fun past ↦ past.2.getLastD past.1 := by
  have h := congrArg NotifyingMap.value (abstraction_runCalls utilityLogWriteELog calls)
  exact (congrFun h component).trans (NotifyingMap.value_run _ _ _)

omit [Errno] in
theorem attemptedCodes_eq_reportsOf (component : BitVec 8) (writes : List ElogWrite) :
    attemptedCodes component writes =
      NotifyingMap.reportsOf component (writes.map ElogWrite.report) := by
  rw [attemptedCodes, NotifyingMap.reportsOf, List.filterMap_map]
  rfl

omit [Errno] in
theorem eventId_eq_ofNat (component code : BitVec 8) :
    eventId component code = BitVec.ofNat 16 (256 * component.toNat + code.toNat) := by
  apply BitVec.eq_of_toNat_eq
  have hcomponent := component.isLt
  have hcode := code.isLt
  rw [eventId_toNat, BitVec.toNat_ofNat, Nat.mod_eq_of_lt (by omega)]

theorem writes_systemSetELog (component code : BitVec 8) (state : ElogState) :
    (systemSetELog utilityLogWriteELog component code state).2.writes =
      state.writes ++
        if (systemSetELog utilityLogWriteELog component code state).2.code? component =
            state.code? component then []
        else [⟨eventId component code, utilityLogWriteELog state.writes.length⟩] := by
  rw [code?_systemSetELog, if_pos rfl]
  cases hstored : state.code? component with
  | none =>
      rw [systemSetELog_of_none utilityLogWriteELog hstored]
      simp
  | some stored =>
      by_cases hsame : stored = code
      · subst hsame
        rw [systemSetELog_of_same utilityLogWriteELog hstored]
        simp
      · rw [(systemSetELog_of_changed utilityLogWriteELog hstored hsame).2]
        simp [Ne.symm hsame]

/-- **The elog table refines a bounded map with change notification.** -/
theorem elog_boundedMapLaws : BoundedMapLaws utilityLogWriteELog calls where
  reg_accepted component initValue msg hfew := by
    have hroom : (runCalls utilityLogWriteELog calls).table.elogArray.length < maxElogEntry := by
      rw [length_elogArray_runCalls]
      exact (Nat.min_le_left _ _).trans_lt hfew
    rw [ElogState.perform, systemRegElog_of_room initValue msg hroom]
    rfl
  reg_refused component initValue msg hmany := by
    apply systemRegElog_of_full
    rw [length_elogArray_runCalls]
    exact le_min hmany le_rfl
  get_last_set component := by
    rw [systemGetELog_eq, code?_runCalls]
    cases history component calls <;> rfl
  set_other component code other hother := by
    rw [systemGetELog_eq, systemGetELog_eq, code?_systemSetELog, if_neg hother]
  set_unregistered component code hnone := by
    apply systemSetELog_of_none
    rw [code?_runCalls, hnone]
    rfl
  set_attempts component code := by
    rw [writes_systemSetELog, eventId_eq_ofNat]
  attempts_are_changes component initial codes hpast := by
    have hreports := congrArg NotifyingMap.reports (abstraction_runCalls utilityLogWriteELog calls)
    have h := NotifyingMap.reports_run maxElogEntry component
      (calls.filterMap ElogCall.abstract?)
    rw [← hreports] at h
    rw [history] at hpast
    rw [hpast] at h
    rw [attemptedCodes_eq_reportsOf]
    exact h

end EdgeDeviceCore.Elog
