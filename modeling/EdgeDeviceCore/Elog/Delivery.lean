import EdgeDeviceCore.Elog.Refinement

/-!
# Failed event writes of the elog table

`SystemSetELog` stores the new code before it writes the event, and keeps it when the write
fails. The stored code then stands for an event that nobody received, and setting the same code
again finds nothing to do and reports success. The runs that never do so are exactly the runs in
which no event is forgotten.
-/

open EdgeDeviceCore.Platform EdgeDeviceCore.Data

namespace EdgeDeviceCore.Elog

/-- The code last delivered for a component. -/
def lastDelivered (component : BitVec 8) (writes : List ElogWrite) : Option (BitVec 8) :=
  ((writesOf component writes).filter fun write ↦ write.status = .ok).getLast?.map ElogWrite.code

/-- The component's latest event write failed, so that its stored code was never delivered. -/
def Undelivered (component : BitVec 8) (state : ElogState) : Prop :=
  ∃ write, (writesOf component state.writes).getLast? = some write ∧ write.status ≠ .ok

section Writes

variable {component other : BitVec 8} {writes : List ElogWrite} {write : ElogWrite}

theorem attemptedCodes_eq_map (component : BitVec 8) (writes : List ElogWrite) :
    attemptedCodes component writes = (writesOf component writes).map ElogWrite.code := by
  induction writes with
  | nil => rfl
  | cons write writes ih =>
      by_cases h : write.component = component <;>
        simp_all [attemptedCodes, writesOf]

theorem lastDelivered_of_last_ok (hlast : (writesOf component writes).getLast? = some write)
    (hok : write.status = .ok) : lastDelivered component writes = some write.code := by
  obtain ⟨earlier, hearlier⟩ := List.getLast?_eq_some_iff.mp hlast
  rw [lastDelivered, hearlier, List.filter_append]
  simp [hok]

end Writes

variable [Errno] (utilityLogWriteELog : ℕ → UtilityLogStatus)

/-- The result of a set made after the calls. -/
def setResult (calls : List ElogCall) (component code : BitVec 8) : ℤ :=
  (systemSetELog utilityLogWriteELog component code (runCalls utilityLogWriteELog calls)).1

/-- The state after a set made after the calls. -/
def afterSet (calls : List ElogCall) (component code : BitVec 8) : ElogState :=
  (systemSetELog utilityLogWriteELog component code (runCalls utilityLogWriteELog calls)).2

/-- No event is forgotten in a run: an event whose write failed is written again by the next set
of the same code, and a set succeeds only for the code last delivered, or for the initial value
while nothing has been delivered. -/
structure NoEventForgotten (calls : List ElogCall) : Prop where
  retried : ∀ before between after component code,
    calls = before ++ .set component code :: (between ++ .set component code :: after) →
    (history component before).isSome →
    setResult utilityLogWriteELog before component code ≠ 0 →
    (∀ other, .set component other ∉ between) →
    (afterSet utilityLogWriteELog (before ++ .set component code :: between) component code).writes =
      (runCalls utilityLogWriteELog (before ++ .set component code :: between)).writes ++
        [⟨eventId component code, utilityLogWriteELog
          (runCalls utilityLogWriteELog (before ++ .set component code :: between)).writes.length⟩]
  succeeds : ∀ before after component code,
    calls = before ++ .set component code :: after →
    setResult utilityLogWriteELog before component code = 0 →
    lastDelivered component (afterSet utilityLogWriteELog before component code).writes = some code ∨
      lastDelivered component (afterSet utilityLogWriteELog before component code).writes = none ∧
        (history component before).map Prod.fst = some code

/-- No set in the run repeats the stored code of a component whose latest write failed. -/
def NeverRepeatsUndelivered (calls : List ElogCall) : Prop :=
  ∀ before after component code, calls = before ++ .set component code :: after →
    ¬ ((runCalls utilityLogWriteELog before).code? component = some code ∧
      Undelivered component (runCalls utilityLogWriteELog before))

section Runs

variable {component code : BitVec 8}

theorem code?_isSome_iff (component : BitVec 8) (calls : List ElogCall) :
    ((runCalls utilityLogWriteELog calls).code? component).isSome ↔
      (history component calls).isSome := by
  rw [code?_runCalls, Option.isSome_map]

theorem exists_code_of_registered {calls : List ElogCall}
    (h : (history component calls).isSome) :
    ∃ stored, (runCalls utilityLogWriteELog calls).code? component = some stored := by
  rwa [← Option.isSome_iff_exists, code?_isSome_iff]

/-- The stored code is the one last attempted, or the initial value while none was attempted. -/
theorem code?_eq_last_attempt (component : BitVec 8) (calls : List ElogCall) :
    (runCalls utilityLogWriteELog calls).code? component =
      (history component calls).map fun past ↦
        ((writesOf component (runCalls utilityLogWriteELog calls).writes).map
          ElogWrite.code).getLastD past.1 := by
  have habstraction := abstraction_runCalls utilityLogWriteELog calls
  have hvalue := congrFun (congrArg NotifyingMap.value habstraction) component
  have hreports := congrArg NotifyingMap.reports habstraction
  refine hvalue.trans ?_
  rw [NotifyingMap.value_run_eq_last_report, ← hreports]
  simp only [← attemptedCodes_eq_map, attemptedCodes_eq_reportsOf]
  rfl

/-- A set of another code than the stored one attempts a write, which becomes the latest. -/
theorem set_changed {stored : BitVec 8} {state : ElogState}
    (hstored : state.code? component = some stored) (hne : stored ≠ code) :
    (systemSetELog utilityLogWriteELog component code state).1 =
        (if utilityLogWriteELog state.writes.length ≠ .ok then -Errno.value .ENOENT else 0) ∧
      (writesOf component
          (systemSetELog utilityLogWriteELog component code state).2.writes).getLast? =
        some ⟨eventId component code, utilityLogWriteELog state.writes.length⟩ := by
  obtain ⟨hret, hwrites⟩ := systemSetELog_of_changed utilityLogWriteELog hstored hne
  refine ⟨hret, ?_⟩
  rw [hwrites, writesOf_concat, component_eventId, if_pos rfl, List.getLast?_concat]

theorem code?_after_set (code : BitVec 8) {calls : List ElogCall}
    (h : (history component calls).isSome) :
    (runCalls utilityLogWriteELog (calls ++ [ElogCall.set component code])).code? component =
      some code := by
  obtain ⟨stored, hstored⟩ := exists_code_of_registered utilityLogWriteELog h
  rw [runCalls_concat, ElogState.perform, code?_systemSetELog, if_pos rfl, hstored]
  rfl

variable {utilityLogWriteELog}

/-- Calls other than sets of a component keep its code, once it is registered, and its writes. -/
theorem runCalls_append_of_no_set {before between : List ElogCall}
    (hcode : (runCalls utilityLogWriteELog before).code? component = some code)
    (hnone : ∀ other, .set component other ∉ between) :
    (runCalls utilityLogWriteELog (before ++ between)).code? component = some code ∧
      writesOf component (runCalls utilityLogWriteELog (before ++ between)).writes =
        writesOf component (runCalls utilityLogWriteELog before).writes := by
  induction between using List.reverseRecOn with
  | nil => simpa using hcode
  | append_singleton between call ih =>
      obtain ⟨hkeep, hwrites⟩ := ih fun other hmem ↦
        hnone other (List.mem_append_left _ hmem)
      rw [← List.append_assoc, runCalls_concat]
      cases call with
      | reg other initValue msg =>
          rw [ElogState.perform, systemRegElog_writes]
          exact ⟨code?_systemRegElog_of_some initValue msg hkeep, hwrites⟩
      | get other => exact ⟨hkeep, hwrites⟩
      | set other value =>
          have hother : component ≠ other := by
            rintro rfl
            exact hnone value (List.mem_append_right _ (List.mem_singleton_self _))
          rw [ElogState.perform, code?_systemSetELog, if_neg hother,
            writesOf_systemSetELog_of_ne utilityLogWriteELog (Ne.symm hother)]
          exact ⟨hkeep, hwrites⟩

/-- A component that is not registered has no writes. -/
theorem writesOf_eq_nil_of_unregistered (calls : List ElogCall)
    (h : history component calls = none) :
    writesOf component (runCalls utilityLogWriteELog calls).writes = [] := by
  have hreports := NotifyingMap.reports_run maxElogEntry component
    (calls.filterMap ElogCall.abstract?)
  rw [history] at h
  rw [h, ← abstraction_runCalls utilityLogWriteELog calls] at hreports
  have hnil : attemptedCodes component (runCalls utilityLogWriteELog calls).writes = [] := by
    rw [attemptedCodes_eq_reportsOf]
    exact hreports
  rwa [attemptedCodes_eq_map, List.map_eq_nil_iff] at hnil

/-- Behind a stored code that was never delivered stands a set whose write failed, and all sets of
the component since repeat its code. -/
theorem exists_failed_set {calls : List ElogCall}
    (hcode : (runCalls utilityLogWriteELog calls).code? component = some code)
    (hundelivered : Undelivered component (runCalls utilityLogWriteELog calls)) :
    ∃ before since, calls = before ++ ElogCall.set component code :: since ∧
      (history component before).isSome ∧
      setResult utilityLogWriteELog before component code ≠ 0 ∧
      ∀ other, .set component other ∈ since → other = code := by
  induction calls using List.reverseRecOn with
  | nil =>
      obtain ⟨write, hwrite, -⟩ := hundelivered
      simp [runCalls, ElogState.initial, writesOf] at hwrite
  | append_singleton calls call ih =>
      -- the decomposition of the earlier calls carries over when this call does not break it
      have hextend (hrepeat : ∀ other, call = .set component other → other = code)
          (hcode' : (runCalls utilityLogWriteELog calls).code? component = some code)
          (hundelivered' : Undelivered component (runCalls utilityLogWriteELog calls)) :
          ∃ before since, calls ++ [call] = before ++ ElogCall.set component code :: since ∧
            (history component before).isSome ∧
            setResult utilityLogWriteELog before component code ≠ 0 ∧
            ∀ other, .set component other ∈ since → other = code := by
        obtain ⟨before, since, rfl, hregistered, hfailed, hsince⟩ := ih hcode' hundelivered'
        refine ⟨before, since ++ [call], by simp, hregistered, hfailed, ?_⟩
        intro other hmem
        rcases List.mem_append.mp hmem with hmem | hmem
        · exact hsince other hmem
        · exact hrepeat other (List.mem_singleton.mp hmem).symm
      rw [runCalls_concat] at hcode hundelivered
      cases call with
      | reg other initValue msg =>
          obtain ⟨write, hwrite, hstatus⟩ := hundelivered
          rw [ElogState.perform, systemRegElog_writes] at hwrite
          cases hpast : history component calls with
          | none => simp [writesOf_eq_nil_of_unregistered calls hpast] at hwrite
          | some past =>
              obtain ⟨stored, hstored⟩ := exists_code_of_registered utilityLogWriteELog
                (Option.isSome_of_eq_some hpast)
              rw [ElogState.perform, code?_systemRegElog_of_some initValue msg hstored] at hcode
              exact hextend (fun _ h ↦ ElogCall.noConfusion h) (hstored.trans hcode)
                ⟨write, hwrite, hstatus⟩
      | get other => exact hextend (fun _ h ↦ ElogCall.noConfusion h) hcode hundelivered
      | set other value =>
          by_cases hother : component = other
          · subst hother
            rw [ElogState.perform, code?_systemSetELog, if_pos rfl] at hcode
            obtain ⟨stored, hstored, rfl⟩ := Option.map_eq_some_iff.mp hcode
            by_cases hsame : stored = value
            · subst hsame
              rw [ElogState.perform, systemSetELog_of_same utilityLogWriteELog hstored]
                at hundelivered
              exact hextend (fun other h ↦ (ElogCall.set.inj h).2.symm) hstored hundelivered
            · obtain ⟨write, hwrite, hstatus⟩ := hundelivered
              obtain ⟨hret, hlast⟩ := set_changed utilityLogWriteELog
                hstored hsame
              rw [ElogState.perform, hlast] at hwrite
              obtain rfl := Option.some.inj hwrite
              refine ⟨calls, [], rfl, ?_, ?_, by simp⟩
              · rw [← code?_isSome_iff utilityLogWriteELog, hstored]
                rfl
              · rw [setResult, hret, if_pos hstatus]
                exact Errno.neg_value_ne_zero _
          · have hcode' : (runCalls utilityLogWriteELog calls).code? component = some code := by
              rwa [ElogState.perform, code?_systemSetELog, if_neg hother] at hcode
            have hwrites : writesOf component ((runCalls utilityLogWriteELog calls).perform
                utilityLogWriteELog (.set other value)).writes =
                  writesOf component (runCalls utilityLogWriteELog calls).writes :=
              writesOf_systemSetELog_of_ne utilityLogWriteELog (Ne.symm hother)
            rw [Undelivered, hwrites] at hundelivered
            exact hextend (fun _ h ↦ absurd (ElogCall.set.inj h).1.symm hother) hcode' hundelivered

omit [Errno] in
/-- The first set of a component in a list of calls that ends with one. -/
theorem exists_first_set (component code : BitVec 8) (since : List ElogCall)
    (hsince : ∀ other, .set component other ∈ since → other = code) (after : List ElogCall) :
    ∃ between later, since ++ ElogCall.set component code :: after =
        between ++ ElogCall.set component code :: later ∧
          ∀ other, ElogCall.set component other ∉ between := by
  induction since with
  | nil => exact ⟨[], after, rfl, by simp⟩
  | cons call since ih =>
      obtain ⟨between, later, heq, hbetween⟩ := ih fun other hmem ↦
        hsince other (List.mem_cons_of_mem _ hmem)
      by_cases hset : ∃ other, call = .set component other
      · obtain ⟨other, rfl⟩ := hset
        obtain rfl := hsince other (List.mem_cons_self ..)
        exact ⟨[], since ++ ElogCall.set component other :: after, rfl, by simp⟩
      · refine ⟨call :: between, later, by rw [List.cons_append, heq, List.cons_append], ?_⟩
        intro other hmem
        rcases List.mem_cons.mp hmem with h | h
        · exact hset ⟨other, h.symm⟩
        · exact hbetween other h

/-- A failed write leaves its code stored and undelivered, until the component is set again. -/
theorem undelivered_after_failed_set {before between : List ElogCall}
    (hregistered : (history component before).isSome)
    (hfailed : setResult utilityLogWriteELog before component code ≠ 0)
    (hbetween : ∀ other, .set component other ∉ between) :
    (runCalls utilityLogWriteELog (before ++ ElogCall.set component code :: between)).code?
        component = some code ∧
      Undelivered component
        (runCalls utilityLogWriteELog (before ++ ElogCall.set component code :: between)) := by
  obtain ⟨stored, hstored⟩ := exists_code_of_registered utilityLogWriteELog hregistered
  have hne : stored ≠ code := by
    rintro rfl
    exact hfailed (congrArg Prod.fst (systemSetELog_of_same utilityLogWriteELog hstored))
  obtain ⟨hret, hlast⟩ := set_changed utilityLogWriteELog hstored hne
  obtain ⟨hkept, hwrites⟩ := runCalls_append_of_no_set
    (code?_after_set utilityLogWriteELog code hregistered) hbetween
  rw [List.append_assoc, List.singleton_append] at hkept hwrites
  refine ⟨hkept, ⟨eventId component code,
    utilityLogWriteELog (runCalls utilityLogWriteELog before).writes.length⟩, ?_, ?_⟩
  · rw [hwrites, runCalls_concat, ElogState.perform, hlast]
  · intro hok
    rw [setResult, hret] at hfailed
    exact hfailed (if_neg (not_not_intro hok))

/-- A set of the stored code stands for the last delivered event, or for the initial value, unless
the latest write of the component has failed. -/
theorem delivered_of_stored {before : List ElogCall}
    (hstored : (runCalls utilityLogWriteELog before).code? component = some code)
    (hdelivered : ¬ Undelivered component (runCalls utilityLogWriteELog before)) :
    lastDelivered component (runCalls utilityLogWriteELog before).writes = some code ∨
      lastDelivered component (runCalls utilityLogWriteELog before).writes = none ∧
        (history component before).map Prod.fst = some code := by
  have hlastAttempt := code?_eq_last_attempt utilityLogWriteELog component before
  rw [hstored] at hlastAttempt
  obtain ⟨past, hpast, hcode⟩ := Option.map_eq_some_iff.mp hlastAttempt.symm
  cases hlast : (writesOf component (runCalls utilityLogWriteELog before).writes).getLast? with
  | none =>
      right
      rw [List.getLast?_eq_none_iff] at hlast
      rw [hlast] at hcode
      exact ⟨by rw [lastDelivered, hlast]; rfl, by rw [hpast]; exact congrArg some hcode⟩
  | some write =>
      left
      have hok : write.status = .ok := by
        by_contra hstatus
        exact hdelivered ⟨write, hlast, hstatus⟩
      rw [lastDelivered_of_last_ok hlast hok]
      rw [List.getLastD_eq_getLast?, List.getLast?_map, hlast] at hcode
      exact congrArg some hcode

/-- A set that succeeds and does not repeat an undelivered code has its code delivered. -/
theorem delivered_of_setResult_eq_zero {before : List ElogCall}
    (hzero : setResult utilityLogWriteELog before component code = 0)
    (hnot : ¬ ((runCalls utilityLogWriteELog before).code? component = some code ∧
      Undelivered component (runCalls utilityLogWriteELog before))) :
    lastDelivered component (afterSet utilityLogWriteELog before component code).writes =
        some code ∨
      lastDelivered component (afterSet utilityLogWriteELog before component code).writes = none ∧
        (history component before).map Prod.fst = some code := by
  cases hstored : (runCalls utilityLogWriteELog before).code? component with
  | none =>
      rw [setResult, systemSetELog_of_none utilityLogWriteELog hstored] at hzero
      exact absurd hzero (Errno.neg_value_ne_zero _)
  | some stored =>
      by_cases hsame : stored = code
      · subst hsame
        rw [afterSet, systemSetELog_of_same utilityLogWriteELog hstored]
        exact delivered_of_stored hstored fun hundelivered ↦ hnot ⟨hstored, hundelivered⟩
      · left
        obtain ⟨hret, hlast⟩ := set_changed utilityLogWriteELog hstored hsame
        have hok : utilityLogWriteELog (runCalls utilityLogWriteELog before).writes.length =
            .ok := by
          by_contra hstatus
          rw [setResult, hret, if_pos hstatus] at hzero
          exact Errno.neg_value_ne_zero _ hzero
        rw [afterSet, lastDelivered_of_last_ok hlast hok, code_eventId]

/-- A set that repeats an undelivered code would be the retry of a failed write, and writes
nothing. -/
theorem neverRepeats_of_noEventForgotten {calls : List ElogCall}
    (h : NoEventForgotten utilityLogWriteELog calls) :
    NeverRepeatsUndelivered utilityLogWriteELog calls := by
  rintro before after component code rfl ⟨hcode, hundelivered⟩
  obtain ⟨earlier, since, rfl, hregistered, hfailed, hsince⟩ :=
    exists_failed_set hcode hundelivered
  obtain ⟨between, later, heq, hbetween⟩ := exists_first_set component code since hsince after
  have hsplit : earlier ++ ElogCall.set component code :: since ++
        ElogCall.set component code :: after =
      earlier ++ ElogCall.set component code ::
        (between ++ ElogCall.set component code :: later) := by
    rw [← heq, List.append_assoc, List.cons_append]
  have hattempt :=
    h.retried earlier between later component code hsplit hregistered hfailed hbetween
  have hkept := (undelivered_after_failed_set hregistered hfailed hbetween).1
  rw [afterSet, systemSetELog_of_same utilityLogWriteELog hkept] at hattempt
  simp at hattempt

end Runs

/-- **Forgotten events.** A run forgets no event exactly when it never sets a component to the
stored code while the component's latest write has failed. -/
theorem noEventForgotten_iff (calls : List ElogCall) :
    NoEventForgotten utilityLogWriteELog calls ↔
      NeverRepeatsUndelivered utilityLogWriteELog calls := by
  constructor
  · exact neverRepeats_of_noEventForgotten
  · intro hnever
    refine ⟨fun before between after component code hcalls hregistered hfailed hbetween ↦ ?_,
      fun before after component code hcalls hzero ↦ ?_⟩
    · -- the retry would repeat an undelivered code
      refine absurd (undelivered_after_failed_set hregistered hfailed hbetween)
        (hnever (before ++ ElogCall.set component code :: between) after component code ?_)
      rw [hcalls, List.append_assoc, List.cons_append]
    · exact delivered_of_setResult_eq_zero hzero (hnever before after component code hcalls)

omit [Errno] in
/-- A write that fails once is lost: the retry writes nothing and succeeds. -/
theorem failed_write_forgotten :
    ¬ @NoEventForgotten Errno.linux (fun _ ↦ .failed 1)
      [.reg 0xf1 0 "EVP Block Warning 2.", .set 0xf1 0x10, .set 0xf1 0x10] := by
  intro h
  have hattempt := @NoEventForgotten.retried Errno.linux _ _ h
    [.reg 0xf1 0 "EVP Block Warning 2."] [] [] 0xf1 0x10 rfl (by decide) (by decide) (by simp)
  exact absurd hattempt (by decide)

end EdgeDeviceCore.Elog
