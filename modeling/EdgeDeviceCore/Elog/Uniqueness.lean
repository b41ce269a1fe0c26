import EdgeDeviceCore.Elog.Refinement

/-!
# One entry per component

`SystemRegElog` appends without a look-up, and a look-up takes the first match. So a second
registration of a component takes a slot and has no effect, and the components stay unique just
along the runs in which every accepted registration is of a component that is new.
-/

open EdgeDeviceCore.Platform EdgeDeviceCore.Data

namespace EdgeDeviceCore.Elog

/-- The components of the live slots. -/
def ElogState.components (state : ElogState) : List (BitVec 8) :=
  state.table.elogArray.map ElogEntry.component

section Components

variable {state : ElogState} {component code : BitVec 8}

theorem code?_eq_none_iff_not_mem :
    state.code? component = none ↔ component ∉ state.components := by
  rw [ElogState.code?, ElogTable.code?, Option.map_eq_none_iff, FirstMatch.lookup_eq_none_iff,
    ElogState.components, List.mem_map]
  constructor
  · rintro h ⟨entry, hentry, hcomponent⟩
    exact h entry hentry hcomponent
  · intro h entry hentry hcomponent
    exact h ⟨entry, hentry, hcomponent⟩

theorem components_systemRegElog (initValue : BitVec 8) (msg : String) :
    (systemRegElog component initValue msg state).components =
      state.components ++
        if state.table.elogArray.length < maxElogEntry then [component] else [] := by
  by_cases hroom : state.table.elogArray.length < maxElogEntry
  · rw [systemRegElog_of_room initValue msg hroom, if_pos hroom]
    exact List.map_append
  · rw [systemRegElog_of_full initValue msg (Nat.not_lt.mp hroom), if_neg hroom, List.append_nil]

theorem components_systemSetELog [Errno] (utilityLogWriteELog : ℕ → UtilityLogStatus) :
    (systemSetELog utilityLogWriteELog component code state).2.components = state.components := by
  unfold systemSetELog
  split
  · split
    · apply List.ext_getElem
      · simp [ElogState.components, ElogTable.modify]
      · intro slot _ _
        simp only [ElogState.components, ElogTable.modify, List.getElem_map, List.getElem_modify]
        split <;> rfl
    · rfl
  · rfl

end Components

variable [Errno] (utilityLogWriteELog : ℕ → UtilityLogStatus)

/-- The call is a registration that the table has room for. -/
def AcceptedReg (done : List ElogCall) (component initValue : BitVec 8) (msg : String)
    (calls : List ElogCall) : Prop :=
  done ++ [.reg component initValue msg] <+: calls ∧
    (runCalls utilityLogWriteELog done).table.elogArray.length < maxElogEntry

/-- The live slots hold at most one entry per component, and a read right after an accepted
registration returns its initial value. -/
structure KeepsComponentsUnique (calls : List ElogCall) : Prop where
  nodup : ∀ done, done <+: calls → (runCalls utilityLogWriteELog done).components.Nodup
  reads_back : ∀ done component initValue msg,
    AcceptedReg utilityLogWriteELog done component initValue msg calls →
    systemGetELog component
      (runCalls utilityLogWriteELog (done ++ [.reg component initValue msg])) = initValue

/-- Every accepted registration is of a component without an entry. -/
def RegistersOnlyNew (calls : List ElogCall) : Prop :=
  ∀ done component initValue msg,
    AcceptedReg utilityLogWriteELog done component initValue msg calls →
    (runCalls utilityLogWriteELog done).code? component = none

variable {calls : List ElogCall}

theorem AcceptedReg.mono {done later : List ElogCall} {component initValue : BitVec 8}
    {msg : String} (h : AcceptedReg utilityLogWriteELog done component initValue msg calls)
    (hlater : calls <+: later) :
    AcceptedReg utilityLogWriteELog done component initValue msg later :=
  ⟨h.1.trans hlater, h.2⟩

theorem nodup_components_runCalls (h : RegistersOnlyNew utilityLogWriteELog calls) :
    (runCalls utilityLogWriteELog calls).components.Nodup := by
  induction calls using List.reverseRecOn with
  | nil => exact List.nodup_nil
  | append_singleton calls call ih =>
      have hcalls := ih fun done component initValue msg hdone ↦
        h done component initValue msg (hdone.mono _ (List.prefix_append ..))
      rw [runCalls_concat]
      cases call with
      | get component => exact hcalls
      | set component code =>
          rw [ElogState.perform, components_systemSetELog]
          exact hcalls
      | reg component initValue msg =>
          rw [ElogState.perform, components_systemRegElog]
          split
          · next hroom =>
              have hnew := h calls component initValue msg ⟨List.prefix_refl _, hroom⟩
              rw [List.nodup_append_comm]
              exact List.nodup_cons.mpr ⟨code?_eq_none_iff_not_mem.mp hnew, hcalls⟩
          · rwa [List.append_nil]

/-- **Components stay unique** along just the runs that register only new components. -/
theorem keepsComponentsUnique_iff :
    KeepsComponentsUnique utilityLogWriteELog calls ↔
      RegistersOnlyNew utilityLogWriteELog calls := by
  constructor
  · intro h done component initValue msg hreg
    have hnodup := h.nodup _ hreg.1
    rw [runCalls_concat, ElogState.perform, components_systemRegElog, if_pos hreg.2,
      List.nodup_append_comm] at hnodup
    exact code?_eq_none_iff_not_mem.mpr (List.nodup_cons.mp hnodup).1
  · intro h
    constructor
    · intro done hdone
      apply nodup_components_runCalls
      exact fun before component initValue msg hreg ↦
        h before component initValue msg (hreg.mono _ hdone)
    · intro done component initValue msg hreg
      rw [runCalls_concat, ElogState.perform, systemGetELog_eq, code?_systemRegElog,
        h done component initValue msg hreg, if_pos ⟨hreg.2, rfl⟩]
      rfl

/-! ## Full tables -/

/-- Once a component has an entry or the table is full, one of the two holds forever. -/
def ElogState.Settled (component : BitVec 8) (state : ElogState) : Prop :=
  component ∈ state.components ∨ maxElogEntry ≤ state.table.elogArray.length

theorem settled_perform (call : ElogCall) {component : BitVec 8} {state : ElogState}
    (h : state.Settled component) :
    (state.perform utilityLogWriteELog call).Settled component := by
  cases call with
  | get _ => exact h
  | set other code =>
      rw [ElogState.perform, ElogState.Settled, components_systemSetELog,
        length_elogArray_systemSetELog]
      exact h
  | reg other initValue msg =>
      rcases h with hmem | hfull
      · left
        rw [ElogState.perform, components_systemRegElog]
        exact List.mem_append_left _ hmem
      · right
        rw [ElogState.perform, systemRegElog_of_full initValue msg hfull]
        exact hfull

omit [Errno] in
/-- A registration settles its component. -/
theorem settled_systemRegElog (component initValue : BitVec 8) (msg : String) (state : ElogState) :
    (systemRegElog component initValue msg state).Settled component := by
  by_cases hroom : state.table.elogArray.length < maxElogEntry
  · left
    rw [components_systemRegElog, if_pos hroom]
    exact List.mem_append_right _ (List.mem_singleton_self _)
  · right
    rw [systemRegElog_of_full initValue msg (Nat.not_lt.mp hroom)]
    exact Nat.not_lt.mp hroom

end EdgeDeviceCore.Elog
