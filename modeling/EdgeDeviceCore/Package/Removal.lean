import EdgeDeviceCore.Package.Lifecycle

/-!
# What a removal leaves

`prerm` stops the service and disables it, for an upgrade as for a removal, and nothing that the
package does starts it or enables it again. Purging the package takes the database, the tool and the
certificates away, so what the device holds later was stored later.
-/

open EdgeDeviceCore.Data
open EdgeDeviceCore.Platform
open EdgeDeviceCore.Semantics StoppedRun

namespace EdgeDeviceCore.Package

section

variable {Path : Type} [DecidableEq Path] [PythonRelease] {db : Path}

/-! ## The service -/

/-- The service does not run, and no boot starts it. -/
structure Device.Idle (device : Device Path) : Prop where
  stopped : device.active = false
  disabled : device.enabled = false

/-- The user starts the service or enables it. -/
def Event.Wakes : Event Path → Prop
  | .systemctl .enable | .systemctl .start => True
  | _ => False

omit [PythonRelease] in
/-- No command starts or enables the service. -/
theorem service_command (command : Command) (answer : Answer Path) (device : Device Path) :
    (device.active = false → (command.run db answer device).2.active = false) ∧
      (device.enabled = false → (command.run db answer device).2.enabled = false) := by
  cases command with
  | elsewhere | rmData | rmEvp => exact ⟨id, id⟩
  | touch | createTable =>
      rw [Command.run]
      split_ifs <;> exact ⟨id, id⟩
  | stopService =>
      rw [Command.run]
      split_ifs
      · exact ⟨fun _ ↦ rfl, id⟩
      · exact ⟨id, id⟩
  | disableService =>
      rw [Command.run]
      split_ifs
      · exact ⟨id, fun _ ↦ rfl⟩
      · exact ⟨id, id⟩

theorem service_step (op : ScriptOp) (answer : Answer Path) (state : ScriptState Path) :
    (state.device.active = false → (step db op answer state).2.device.active = false) ∧
      (state.device.enabled = false → (step db op answer state).2.device.enabled = false) := by
  cases op with
  | command command => exact service_command command answer state.device
  | test test => exact ⟨id, id⟩
  | tool key value | warn key =>
      rw [step]
      split_ifs <;> exact ⟨id, id⟩

theorem Device.Idle.step {state : ScriptState Path} (h : state.device.Idle) (op : ScriptOp)
    (answer : Answer Path) : (Package.step db op answer state).2.device.Idle :=
  ⟨(service_step op answer state).1 h.stopped, (service_step op answer state).2 h.disabled⟩

/-- An idle service stays so until the user wakes it. -/
theorem Device.Idle.after {device after : Device Path} (h : device.Idle) {event : Event Path}
    (hquiet : ¬ event.Wakes) (hafter : device.after db event = some after) : after.Idle := by
  cases event with
  | postinst answers | prerm answers | postrm purge answers =>
      obtain rfl := Option.some.inj hafter
      exact kept_runScript Device.Idle (fun op answer _ hidle ↦ hidle.step op answer) h ..
  | systemctl action =>
      obtain rfl := Option.some.inj hafter
      cases action with
      | enable | start => exact absurd trivial hquiet
      | disable => exact ⟨h.stopped, rfl⟩
      | stop => exact ⟨rfl, h.disabled⟩
  | invoke invocation =>
      obtain ⟨files, -, rfl⟩ := Option.map_eq_some_iff.mp hafter
      exact ⟨h.stopped, h.disabled⟩
  | boot =>
      obtain rfl := Option.some.inj hafter
      exact ⟨h.disabled, h.disabled⟩
  | unpack | removeFiles | putFile name content | deleteFile name =>
      obtain rfl := Option.some.inj hafter
      exact ⟨h.stopped, h.disabled⟩

theorem Device.Idle.runEvents {device after : Device Path} (h : device.Idle)
    {events : List (Event Path)} (hquiet : ∀ event ∈ events, ¬ event.Wakes)
    (hrun : runEvents db device events = some after) : after.Idle := by
  induction events using List.reverseRecOn generalizing after with
  | nil =>
      obtain rfl := Option.some.inj hrun
      exact h
  | append_singleton events event ih =>
      obtain ⟨middle, hmiddle, hlast⟩ := TransitionRun.run_concat.mp hrun
      have hidle := ih (fun earlier hmem ↦ hquiet earlier (List.mem_append_left _ hmem)) hmiddle
      exact hidle.after (hquiet event (by simp)) hlast

/-! ## Stopping and disabling -/

/-- The answers of a machine on which systemd runs and can be asked. -/
def Answer.onSystemd (answer : Answer Path) : Answer Path :=
  { answer with holds := Function.update answer.holds .systemdRuns true, queries := true }

variable {kind : Answer Path → Answer Path}

/-- What is found on is turned off, or the script ends there. -/
theorem throughout_turnOff {condition : Test} {used : Command} {flag : Device Path → Bool}
    (htest : ∀ (answer : Answer Path) device, condition.holds (kind answer) device = flag device)
    (hcommand : ∀ (answer : Answer Path) device, (used.run db answer device).1 = true →
      flag (used.run db answer device).2 = false)
    {kept : ScriptState Path → Prop}
    (hkept : ∀ op, True → ∀ answer state, kept state → kept (step db op answer state).2)
    {state : ScriptState Path} (hstate : kept state) :
    Throughout (stepOn db kind) (fun _ ↦ True)
      (fun _ later ↦ flag later.device = false ∧ kept later)
      (whenHolds condition do
        elsewhere
        command used) state := by
  refine ⟨trivial, fun answer ↦ ?_⟩
  change Throughout _ _ _ (if condition.holds (kind answer) state.device then _ else pure () :
    Script Unit) state
  rw [htest]
  cases hflag : flag state.device with
  | false => exact ⟨hflag, hstate⟩
  | true =>
      apply (throughout_kept (issues_true elsewhere) hkept hstate).bind
      intro _ later hlater
      apply throughout_command
      intro answer hruns
      exact ⟨hcommand answer later.device hruns,
        hkept (.command used) trivial answer later hlater⟩

theorem throughout_stopAndDisable (state : ScriptState Path) :
    Throughout (stepOn db Answer.onSystemd) (fun _ ↦ True) (fun _ later ↦ later.device.Idle) stopAndDisable
      state := by
  have hstop : ∀ (answer : Answer Path) device, (Command.stopService.run db answer device).1 = true →
      (Command.stopService.run db answer device).2.active = false := by
    intro answer device hruns
    exact congrArg Device.active (if_pos hruns)
  have hdisable : ∀ (answer : Answer Path) device,
      (Command.disableService.run db answer device).1 = true →
        (Command.disableService.run db answer device).2.enabled = false := by
    intro answer device hruns
    exact congrArg Device.enabled (if_pos hruns)
  have hstopped : ∀ op, True → ∀ answer (state : ScriptState Path), state.device.active = false →
      (step db op answer state).2.device.active = false :=
    fun op _ answer state ↦ (service_step op answer state).1
  have hasksActive : ∀ (answer : Answer Path) device,
      Test.serviceActive.holds answer.onSystemd device = device.active := fun _ _ ↦ rfl
  have hasksEnabled : ∀ (answer : Answer Path) device,
      Test.serviceEnabled.holds answer.onSystemd device = device.enabled := fun _ _ ↦ rfl
  have hactive : Throughout (stepOn db Answer.onSystemd) (fun _ ↦ True)
      (fun _ later ↦ later.device.active = false ∧ True)
      (whenHolds .serviceActive do
        elsewhere
        command .stopService) state :=
    throughout_turnOff hasksActive hstop (fun _ _ _ _ h ↦ h) trivial
  apply hactive.bind
  rintro _ middle ⟨hinactive, -⟩
  apply (throughout_turnOff hasksEnabled hdisable hstopped hinactive).mono
  · exact fun _ _ ↦ trivial
  · rintro _ later ⟨henabled, hinactive⟩
    exact ⟨hinactive, henabled⟩

theorem throughout_prerm (state : ScriptState Path) :
    Throughout (stepOn db Answer.onSystemd) (fun _ ↦ True) (fun _ later ↦ later.device.Idle) prerm state := by
  have hbody : Throughout (stepOn db Answer.onSystemd) (fun _ ↦ True) (fun _ later ↦ later.device.Idle)
      (whenHolds .systemdRuns stopAndDisable) state :=
    ⟨trivial, fun _ ↦ throughout_stopAndDisable state⟩
  apply hbody.bind
  intro _ later hidle
  exact throughout_kept (issues_true _) (fun op _ answer _ h ↦ h.step op answer) hidle

/-- With systemd running, `prerm` does not finish before the service is idle. -/
theorem idle_prerm {device : Device Path} {answers : List (Answer Path)}
    (hfinished : (runScript db prerm (answers.map Answer.onSystemd) device).1 = .finished ()) :
    (runScript db prerm (answers.map Answer.onSystemd) device).2.device.Idle := by
  rw [runScript, run_map] at hfinished ⊢
  exact (run_meets (throughout_prerm ⟨device, []⟩) answers).of_finished hfinished

/-! ## Purging -/

/-- Nothing of the package is left. -/
structure Device.Cleared (db : Path) (device : Device Path) : Prop where
  files : device.files db = .missing
  tool : device.tool = false
  evp : device.evp = []

/-- The operations of `postrm` bring nothing back. -/
theorem cleared_step {op : ScriptOp} (hop : PostrmOp true op) (answer : Answer Path)
    (state : ScriptState Path) :
    (state.device.files db = .missing → (step db op answer state).2.device.files db = .missing) ∧
      (state.device.tool = false → (step db op answer state).2.device.tool = false) ∧
      (state.device.evp = [] → (step db op answer state).2.device.evp = []) := by
  cases op with
  | command command =>
      change _ ∈ _ at hop
      simp only [List.mem_cons, List.not_mem_nil, or_false] at hop
      rcases hop with rfl | rfl | rfl
      · exact ⟨id, id, id⟩
      · refine ⟨fun hmissing ↦ ?_, fun htool ↦ ?_, id⟩
        · change (if _ then Function.update state.device.files db .missing
            else state.device.files) db = .missing
          split_ifs
          · exact Function.update_self ..
          · exact hmissing
        · change (state.device.tool && _) = false
          rw [htool, Bool.false_and]
      · refine ⟨id, id, fun hevp ↦ ?_⟩
        change state.device.evp.filter _ = []
        rw [hevp, List.filter_nil]
  | test test => exact ⟨id, id, id⟩
  | tool key value => exact hop.elim
  | warn key =>
      obtain ⟨value, hnone⟩ := hop
      exact hnone.elim

theorem throughout_purgeData (state : ScriptState Path) :
    Throughout (stepOn db id) (fun _ ↦ True) (fun _ later ↦ later.device.Cleared db) purgeData
      state := by
  have helsewhere : Issues (PostrmOp true) elsewhere := issues_command (by decide)
  have hgone : ∀ op, PostrmOp true op → ∀ answer (later : ScriptState Path),
      later.device.files db = .missing ∧ later.device.tool = false →
        (step db op answer later).2.device.files db = .missing ∧
          (step db op answer later).2.device.tool = false :=
    fun op hop answer later h ↦
      ⟨(cleared_step hop answer later).1 h.1, (cleared_step hop answer later).2.1 h.2⟩
  have hcleared : ∀ op, PostrmOp true op → ∀ answer (later : ScriptState Path),
      later.device.Cleared db → (step db op answer later).2.device.Cleared db :=
    fun op hop answer later h ↦
      ⟨(cleared_step hop answer later).1 h.files, (cleared_step hop answer later).2.1 h.tool,
        (cleared_step hop answer later).2.2 h.evp⟩
  have hrules : Issues (PostrmOp true) (whenHolds .rulesFile do
      elsewhere
      elsewhere
      reloadUdevRules) :=
    issues_whenHolds
      (helsewhere.bind fun _ ↦ helsewhere.bind fun _ ↦ issues_reloadUdevRules (by decide))
  have hdata (later : ScriptState Path) : Throughout (stepOn db id) (fun _ ↦ True)
      (fun _ after ↦ after.device.files db = .missing ∧ after.device.tool = false)
      (command .rmData) later := by
    apply throughout_command
    intro answer (hruns : answer.succeeds = true)
    constructor
    · change (if answer.succeeds || answer.losesDb then Function.update later.device.files db .missing
        else later.device.files) db = .missing
      rw [hruns, Bool.true_or, if_pos rfl, Function.update_self]
    · change (later.device.tool && !(answer.succeeds || answer.losesTool)) = false
      rw [hruns, Bool.true_or, Bool.not_true, Bool.and_false]
  have hevp (later : ScriptState Path)
      (hlater : later.device.files db = .missing ∧ later.device.tool = false) :
      Throughout (stepOn db id) (fun _ ↦ True) (fun _ after ↦ after.device.Cleared db)
        (command .rmEvp) later := by
    apply throughout_command
    intro answer (hruns : answer.succeeds = true)
    refine ⟨hlater.1, hlater.2, ?_⟩
    change later.device.evp.filter (fun file ↦ !(answer.succeeds || answer.loses file.1)) = []
    simp [hruns]
  apply (throughout_true elsewhere state).bind
  intro _ first _
  apply (hdata first).bind
  intro _ second hsecond
  apply (throughout_kept helsewhere hgone hsecond).bind
  intro _ third hthird
  apply (hevp third hthird).bind
  intro _ fourth hfourth
  exact throughout_kept hrules hcleared hfourth

/-- A purge does not finish before everything is gone. -/
theorem cleared_purge {device : Device Path} {answers : List (Answer Path)}
    (hfinished : (runScript db (postrm true) answers device).1 = .finished ()) :
    (runScript db (postrm true) answers device).2.device.Cleared db := by
  have hpurge : Throughout (step db) (fun _ ↦ True) (fun _ later ↦ later.device.Cleared db)
      (postrm true) ⟨device, []⟩ := by
    have hreload (state : ScriptState Path) : Throughout (stepOn db id) (fun _ ↦ True)
        (fun _ later ↦ later.device.Cleared db) (reloadUdevRules >>= fun _ ↦ purgeData) state :=
      (throughout_true reloadUdevRules state).bind fun _ later _ ↦ throughout_purgeData later
    exact (throughout_true (whenHolds .systemdRuns elsewhere) ⟨device, []⟩).bind
      fun _ later _ ↦ hreload later
  exact (run_meets hpurge answers).of_finished hfinished

/-! ## After a removal -/

/-- The files that the user puts into `/etc/evp`. -/
def Event.puts : Event Path → List (CString × List Char)
  | .putFile name content => [(name, content)]
  | _ => []

/-- Every file with a content is among these. -/
def Device.HoldsOnly (device : Device Path) (put : List (CString × List Char)) : Prop :=
  ∀ file ∈ device.evp, file.2 ≠ [] → file ∈ put

theorem Device.HoldsOnly.step {put : List (CString × List Char)} (op : ScriptOp)
    (answer : Answer Path) {state : ScriptState Path} (h : state.device.HoldsOnly put) :
    (Package.step db op answer state).2.device.HoldsOnly put := by
  cases op with
  | test test => exact h
  | tool key value | warn key =>
      rw [Package.step]
      split_ifs <;> exact h
  | command command =>
      change (command.run db answer state.device).2.HoldsOnly put
      cases command with
      | elsewhere | rmData => exact h
      | createTable | stopService | disableService =>
          rw [Command.run]
          split_ifs <;> exact h
      | touch name =>
          rw [Command.run]
          split_ifs
          · intro file hfile hcontent
            change file ∈ touchFile name state.device.evp at hfile
            rw [touchFile] at hfile
            split_ifs at hfile
            · exact h file hfile hcontent
            · rcases List.mem_append.mp hfile with hbefore | htouched
              · exact h file hbefore hcontent
              · obtain rfl := List.mem_singleton.mp htouched
                exact absurd rfl hcontent
          · exact h
      | rmEvp =>
          intro file hfile hcontent
          exact h file (List.mem_filter.mp hfile).1 hcontent

theorem Device.HoldsOnly.after {put : List (CString × List Char)} {device after : Device Path}
    (h : device.HoldsOnly put) {event : Event Path} (hafter : device.after db event = some after) :
    after.HoldsOnly (put ++ event.puts) := by
  have hkept {other : Device Path} (hother : other.HoldsOnly put) :
      other.HoldsOnly (put ++ event.puts) :=
    fun file hfile hcontent ↦ List.mem_append_left _ (hother file hfile hcontent)
  have hstep : ∀ op answer (state : ScriptState Path), state.device.HoldsOnly put →
      (Package.step db op answer state).2.device.HoldsOnly put :=
    fun op answer _ ↦ HoldsOnly.step op answer
  have hscript := kept_runScript (fun kept ↦ kept.HoldsOnly put) hstep h
  cases event with
  | postinst answers | prerm answers | postrm purge answers =>
      obtain rfl := Option.some.inj hafter
      exact hkept (hscript _ answers)
  | invoke invocation =>
      obtain ⟨files, -, rfl⟩ := Option.map_eq_some_iff.mp hafter
      exact hkept h
  | systemctl action =>
      obtain rfl := Option.some.inj hafter
      cases action <;> exact hkept h
  | unpack | removeFiles | boot =>
      obtain rfl := Option.some.inj hafter
      exact hkept h
  | deleteFile name =>
      obtain rfl := Option.some.inj hafter
      intro file hfile hcontent
      exact hkept h file (List.mem_filter.mp hfile).1 hcontent
  | putFile name content =>
      obtain rfl := Option.some.inj hafter
      intro file hfile hcontent
      rcases List.mem_append.mp hfile with hbefore | hput
      · exact hkept h file (List.mem_filter.mp hbefore).1 hcontent
      · exact List.mem_append_right _ hput

theorem Device.HoldsOnly.runEvents {device after : Device Path} (h : device.HoldsOnly [])
    {events : List (Event Path)} (hrun : runEvents db device events = some after) :
    after.HoldsOnly (events.flatMap Event.puts) := by
  induction events using List.reverseRecOn generalizing after with
  | nil =>
      obtain rfl := Option.some.inj hrun
      exact h
  | append_singleton events event ih =>
      obtain ⟨middle, hmiddle, hlast⟩ := TransitionRun.run_concat.mp hrun
      rw [List.flatMap_append, List.flatMap_singleton]
      exact (ih hmiddle).after hlast

end

section

attribute [local instance] Psm.asciiRelease

/-- A device in use, with a client certificate. -/
def usedDevice : Device ℕ where
  files := Psm.noFiles
  tool := true
  evp := [("dev_cert.pem".toList, ['C'])]
  enabled := true
  active := true

end

end EdgeDeviceCore.Package
