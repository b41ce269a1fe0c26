import EdgeDeviceCore.Notifications.AgentStatus

/-!
# The connection statuses of the service LED

The handler of `agent/status` sets the four statuses one by one, the one to enable among them, and
gives up at the first that the LED manager refuses. What was set before stays set. So a refused
call changes nothing just when the statuses before the refused one had their new values already,
and along runs of such calls at most one status is enabled.
-/

open EdgeDeviceCore.Platform

namespace EdgeDeviceCore.Notifications

/-! ## One call -/

/-- One call of the handler, with what it reads. -/
structure StatusCall where
  args : Option CString
  inputs : StatusInputs

/-- The call reports a connection while the device is in enrollment mode. -/
def StatusCall.EnrollmentConnected (call : StatusCall) : Prop :=
  ∃ agentStatus, call.args = some agentStatus ∧ strcmp agentStatus "connected".toList = 0 ∧
    call.inputs.isEnrollmentMode = true

/-- The status that matches the event and the TLS setting. -/
def StatusCall.matching (call : StatusCall) : Option LedStatus :=
  match call.args with
  | none => none
  | some agentStatus =>
      if strcmp agentStatus "connected".toList = 0 then
        some (if call.inputs.evpAgentEsfIsTlsEnabled then .connectedWithTLS
          else .connectedWithoutTLS)
      else if strcmp agentStatus "disconnected".toList = 0 then
        some (if call.inputs.evpAgentEsfIsTlsEnabled then .disconnectedConnectingWithTLS
          else .disconnectedConnectingWithoutTLS)
      else none

def StatusCall.result (call : StatusCall) (leds : Leds) : ℤ :=
  (agentStatusHandler call.args call.inputs leds).1

def StatusCall.after (call : StatusCall) (leds : Leds) : Leds :=
  (agentStatusHandler call.args call.inputs leds).2

/-- The only enabled status is the given one. -/
def onlyEnabled (enabled : LedStatus) : Leds := fun status ↦ status = enabled

/-- What a call may do: without success it changes nothing, and outside enrollment mode a success
leaves just the matching status enabled. -/
structure StatusCall.Correct (call : StatusCall) (leds : Leds) : Prop where
  unchanged : call.result leds = -1 → call.after leds = leds
  exact : call.result leds = 0 → ¬ call.EnrollmentConnected →
    ∃ status, call.matching = some status ∧ call.after leds = onlyEnabled status

/-- The four statuses, in the order of the loop. -/
abbrev ledOrder : List LedStatus :=
  [.connectedWithTLS, .connectedWithoutTLS, .disconnectedConnectingWithTLS,
    .disconnectedConnectingWithoutTLS]

/-- A call gets to set the statuses, up to a refused one. -/
structure StatusCall.Refused (call : StatusCall) (enabled : LedStatus)
    (done : List LedStatus) (refused : LedStatus) : Prop where
  matches_event : call.matching = some enabled
  not_enrollment : ¬ call.EnrollmentConnected
  order : ∃ rest, ledOrder = done ++ refused :: rest
  accepted : ∀ status ∈ done, call.inputs.ledManagerAccepts status = true
  refuses : call.inputs.ledManagerAccepts refused = false

/-- The statuses before a refused one have their new values already. -/
def StatusCall.Settled (call : StatusCall) (leds : Leds) : Prop :=
  ∀ enabled done refused, call.Refused enabled done refused →
    ∀ status ∈ done, leds status = onlyEnabled enabled status

/-! ## The loop -/

/-- Setting a list of statuses, whatever the LED manager answers. -/
def setAll (info : List (LedStatus × Bool)) (leds : Leds) : Leds :=
  info.foldl (fun leds entry ↦ Function.update leds entry.1 entry.2) leds

variable {accepts : LedStatus → Bool} {leds : Leds}

theorem setLedStatuses_of_accepts {info : List (LedStatus × Bool)}
    (h : ∀ entry ∈ info, accepts entry.1 = true) :
    setLedStatuses accepts info leds = (0, setAll info leds) := by
  induction info generalizing leds with
  | nil => rfl
  | cons entry rest ih =>
      obtain ⟨hentry, hrest⟩ := List.forall_mem_cons.mp h
      rw [setLedStatuses, if_pos hentry, ih hrest]
      rfl

theorem setLedStatuses_of_refuses {done rest : List (LedStatus × Bool)} {refused : LedStatus × Bool}
    (hdone : ∀ entry ∈ done, accepts entry.1 = true) (hrefused : accepts refused.1 = false) :
    setLedStatuses accepts (done ++ refused :: rest) leds = (-1, setAll done leds) := by
  induction done generalizing leds with
  | nil => rw [List.nil_append, setLedStatuses, hrefused, if_neg Bool.false_ne_true]; rfl
  | cons entry done ih =>
      obtain ⟨hentry, htail⟩ := List.forall_mem_cons.mp hdone
      rw [List.cons_append, setLedStatuses, if_pos hentry, ih htail]
      rfl

/-- After setting a list of statuses to what is wanted, these have the wanted values and the
others their old ones. -/
theorem setAll_map_apply (wanted : Leds) (statuses : List LedStatus) (status : LedStatus) :
    setAll (statuses.map fun status ↦ (status, wanted status)) leds status =
      if status ∈ statuses then wanted status else leds status := by
  induction statuses generalizing leds with
  | nil => simp [setAll]
  | cons first rest ih =>
      calc setAll ((first :: rest).map fun status ↦ (status, wanted status)) leds status
          = if status ∈ rest then wanted status
            else Function.update leds first (wanted first) status := ih
        _ = if status ∈ first :: rest then wanted status else leds status := by
          by_cases hfirst : status = first
          · simp [hfirst]
          · simp [hfirst]

/-- Setting statuses changes nothing just when they have the wanted values already. -/
theorem setAll_map_eq_iff (wanted : Leds) (statuses : List LedStatus) :
    setAll (statuses.map fun status ↦ (status, wanted status)) leds = leds ↔
      ∀ status ∈ statuses, leds status = wanted status := by
  simp only [funext_iff, setAll_map_apply]
  constructor
  · intro h status hstatus
    rw [← h status, if_pos hstatus]
  · intro h status
    split
    · next hstatus => exact (h status hstatus).symm
    · rfl

theorem mem_ledOrder (status : LedStatus) : status ∈ ledOrder := by
  cases status <;> simp

theorem ledStatusInfo_eq (enabled : LedStatus) :
    ledStatusInfo enabled = ledOrder.map fun status ↦ (status, onlyEnabled enabled status) := rfl

theorem setAll_ledStatusInfo (enabled : LedStatus) :
    setAll (ledStatusInfo enabled) leds = onlyEnabled enabled := by
  ext status
  rw [ledStatusInfo_eq, setAll_map_apply, if_pos (mem_ledOrder status)]

/-- A list of answers is all acceptances, or there is a first refusal. -/
theorem accepts_or_refuses (accepts : LedStatus → Bool) (statuses : List LedStatus) :
    (∀ status ∈ statuses, accepts status = true) ∨
      ∃ done refused rest, statuses = done ++ refused :: rest ∧
        (∀ status ∈ done, accepts status = true) ∧ accepts refused = false := by
  by_cases h : ∀ status ∈ statuses, accepts status = true
  · exact .inl h
  · right
    push Not at h
    obtain ⟨status, hstatus, hrefused⟩ := h
    have hfind : (statuses.find? fun status ↦ !accepts status).isSome := by
      rw [List.find?_isSome]
      exact ⟨status, hstatus, by simpa using hrefused⟩
    obtain ⟨refused, hfound⟩ := Option.isSome_iff_exists.mp hfind
    obtain ⟨hrefuses, done, rest, horder, hdone⟩ := List.find?_eq_some_iff_append.mp hfound
    exact ⟨done, refused, rest, horder, fun status h ↦ by simpa using hdone status h,
      by simpa using hrefuses⟩

/-! ## What a call does -/

theorem agentStatusHandler_of_matching_none {call : StatusCall} (h : call.matching = none)
    (leds : Leds) : agentStatusHandler call.args call.inputs leds = (-1, leds) := by
  unfold StatusCall.matching at h
  unfold agentStatusHandler
  cases hargs : call.args with
  | none => rfl
  | some agentStatus =>
      simp only [hargs] at h ⊢
      split at h
      · cases h
      · next hconnected =>
          split at h
          · cases h
          · next hdisconnected => rw [if_neg hconnected, if_neg hdisconnected]

theorem agentStatusHandler_of_enrollment {call : StatusCall} (h : call.EnrollmentConnected) :
    agentStatusHandler call.args call.inputs leds = (0, leds) := by
  obtain ⟨agentStatus, hargs, hconnected, henrollment⟩ := h
  simp only [agentStatusHandler, hargs]
  rw [if_pos hconnected, if_pos henrollment]

theorem agentStatusHandler_of_matching {call : StatusCall} {status : LedStatus}
    (hmatching : call.matching = some status) (henrollment : ¬ call.EnrollmentConnected) :
    agentStatusHandler call.args call.inputs leds =
      setLedStatuses call.inputs.ledManagerAccepts (ledStatusInfo status) leds := by
  unfold StatusCall.matching at hmatching
  unfold agentStatusHandler
  cases hargs : call.args with
  | none =>
      rw [hargs] at hmatching
      cases hmatching
  | some agentStatus =>
      simp only [hargs] at hmatching ⊢
      split at hmatching
      · next hconnected =>
          have hmode : ¬ call.inputs.isEnrollmentMode = true :=
            fun hmode ↦ henrollment ⟨agentStatus, hargs, hconnected, hmode⟩
          obtain rfl := Option.some.inj hmatching
          rw [if_pos hconnected, if_neg hmode]
          split <;> rfl
      · next hconnected =>
          split at hmatching
          · next hdisconnected =>
              obtain rfl := Option.some.inj hmatching
              rw [if_neg hconnected, if_pos hdisconnected]
              split <;> rfl
          · cases hmatching

theorem StatusCall.Refused.handler_eq {call : StatusCall} {enabled refused : LedStatus}
    {done : List LedStatus} (h : call.Refused enabled done refused) (leds : Leds) :
    agentStatusHandler call.args call.inputs leds =
      (-1, setAll (done.map fun status ↦ (status, onlyEnabled enabled status)) leds) := by
  obtain ⟨rest, horder⟩ := h.order
  rw [agentStatusHandler_of_matching h.matches_event h.not_enrollment, ledStatusInfo_eq, horder,
    List.map_append, List.map_cons, setLedStatuses_of_refuses]
  · intro entry hentry
    obtain ⟨status, hstatus, rfl⟩ := List.mem_map.mp hentry
    exact h.accepted status hstatus
  · exact h.refuses

/-- A call that reaches the LED manager sets every status or is refused one of them. -/
theorem StatusCall.handler_eq_or_refused {call : StatusCall} {status : LedStatus} (leds : Leds)
    (hmatching : call.matching = some status) (henrollment : ¬ call.EnrollmentConnected) :
    agentStatusHandler call.args call.inputs leds = (0, onlyEnabled status) ∨
      ∃ done refused, call.Refused status done refused := by
  rcases accepts_or_refuses call.inputs.ledManagerAccepts ledOrder with
    hall | ⟨done, refused, rest, horder, hdone, hrefused⟩
  · left
    rw [agentStatusHandler_of_matching hmatching henrollment, setLedStatuses_of_accepts,
      setAll_ledStatusInfo]
    exact fun entry _ ↦ hall entry.1 (mem_ledOrder entry.1)
  · right
    exact ⟨done, refused, hmatching, henrollment, ⟨rest, horder⟩, hdone, hrefused⟩

/-- A call is correct just when a refusal finds the statuses before it settled. -/
theorem StatusCall.correct_iff_settled (call : StatusCall) (leds : Leds) :
    call.Correct leds ↔ call.Settled leds := by
  constructor
  · intro h enabled done refused hrefused
    have hhandler := hrefused.handler_eq leds
    have hunchanged := h.unchanged (congrArg Prod.fst hhandler)
    rw [StatusCall.after, hhandler] at hunchanged
    exact (setAll_map_eq_iff (onlyEnabled enabled) done).mp hunchanged
  · intro h
    by_cases henrollment : call.EnrollmentConnected
    · have hafter : call.after leds = leds :=
        congrArg Prod.snd (agentStatusHandler_of_enrollment henrollment)
      exact ⟨fun _ ↦ hafter, fun _ hnot ↦ absurd henrollment hnot⟩
    · cases hmatching : call.matching with
      | none =>
          have hhandler := agentStatusHandler_of_matching_none hmatching leds
          have hresult : call.result leds = -1 := congrArg Prod.fst hhandler
          exact ⟨fun _ ↦ congrArg Prod.snd hhandler, fun hzero ↦ absurd (hresult.symm.trans hzero)
            (by decide)⟩
      | some status =>
          rcases StatusCall.handler_eq_or_refused leds hmatching henrollment with
            hhandler | ⟨done, refused, hrefused⟩
          · have hresult : call.result leds = 0 := congrArg Prod.fst hhandler
            exact ⟨fun hfailed ↦ absurd (hresult.symm.trans hfailed) (by decide),
              fun _ _ ↦ ⟨status, hmatching, congrArg Prod.snd hhandler⟩⟩
          · have hhandler := hrefused.handler_eq leds
            have hresult : call.result leds = -1 := congrArg Prod.fst hhandler
            constructor
            · intro _
              rw [StatusCall.after, hhandler]
              exact (setAll_map_eq_iff (onlyEnabled status) done).mpr
                (h status done refused hrefused)
            · exact fun hzero ↦ absurd (hresult.symm.trans hzero) (by decide)

theorem setLedStatuses_result (info : List (LedStatus × Bool)) (leds : Leds) :
    (setLedStatuses accepts info leds).1 = -1 ∨ (setLedStatuses accepts info leds).1 = 0 := by
  induction info generalizing leds with
  | nil => exact .inr rfl
  | cons entry rest ih =>
      rw [setLedStatuses]
      split
      · exact ih _
      · exact .inl rfl

/-- A correct call leaves everything as it was or one status enabled. -/
theorem StatusCall.Correct.after_eq {call : StatusCall} (h : call.Correct leds) :
    call.after leds = leds ∨ ∃ status, call.after leds = onlyEnabled status := by
  by_cases henrollment : call.EnrollmentConnected
  · exact .inl (congrArg Prod.snd (agentStatusHandler_of_enrollment henrollment))
  · cases hmatching : call.matching with
    | none => exact .inl (congrArg Prod.snd (agentStatusHandler_of_matching_none hmatching leds))
    | some status =>
        have hresult : call.result leds = -1 ∨ call.result leds = 0 := by
          rw [StatusCall.result, agentStatusHandler_of_matching hmatching henrollment]
          exact setLedStatuses_result _ leds
        rcases hresult with hfailed | hzero
        · exact .inl (h.unchanged hfailed)
        · obtain ⟨status, -, hafter⟩ := h.exact hzero henrollment
          exact .inr ⟨status, hafter⟩

/-! ## Runs of calls -/

def AtMostOneEnabled (leds : Leds) : Prop :=
  ∀ status other, leds status = true → leds other = true → status = other

theorem atMostOneEnabled_onlyEnabled (enabled : LedStatus) :
    AtMostOneEnabled (onlyEnabled enabled) := by
  intro status other hstatus hother
  calc status = enabled := of_decide_eq_true hstatus
    _ = other := (of_decide_eq_true hother).symm

theorem StatusCall.Correct.atMostOneEnabled {call : StatusCall} (h : call.Correct leds)
    (hleds : AtMostOneEnabled leds) : AtMostOneEnabled (call.after leds) := by
  rcases h.after_eq with hafter | ⟨status, hafter⟩
  · rw [hafter]
    exact hleds
  · exact hafter ▸ atMostOneEnabled_onlyEnabled status

/-- The LED manager after a run of calls that starts with all statuses disabled. -/
def ledsAfter (calls : List StatusCall) : Leds :=
  calls.foldl (fun leds call ↦ call.after leds) fun _ ↦ false

@[simp]
theorem ledsAfter_concat (calls : List StatusCall) (call : StatusCall) :
    ledsAfter (calls ++ [call]) = call.after (ledsAfter calls) := by
  rw [ledsAfter, List.foldl_append]
  rfl

/-- After every call at most one status is enabled, and every call is correct. -/
structure RunCorrect (calls : List StatusCall) : Prop where
  atMostOneEnabled : ∀ done, done <+: calls → AtMostOneEnabled (ledsAfter done)
  correct : ∀ done call, done ++ [call] <+: calls → call.Correct (ledsAfter done)

/-- Correct calls keep at most one status enabled. -/
theorem atMostOneEnabled_ledsAfter {calls : List StatusCall}
    (h : ∀ done call, done ++ [call] <+: calls → call.Correct (ledsAfter done)) :
    AtMostOneEnabled (ledsAfter calls) := by
  induction calls using List.reverseRecOn with
  | nil => exact fun status other hstatus ↦ absurd hstatus Bool.false_ne_true
  | append_singleton calls call ih =>
      have hcalls := ih fun done call hdone ↦ h done call (hdone.trans (List.prefix_append ..))
      rw [ledsAfter_concat]
      exact (h calls call (List.prefix_refl _)).atMostOneEnabled hcalls

/-- **At most one connection status is on**, and calls are all or nothing, along just those runs in
which a refused call finds the statuses before the refused one settled. -/
theorem runCorrect_iff (calls : List StatusCall) :
    RunCorrect calls ↔
      ∀ done call, done ++ [call] <+: calls → call.Settled (ledsAfter done) := by
  constructor
  · intro h done call hdone
    exact (call.correct_iff_settled _).mp (h.correct done call hdone)
  · intro h
    have hcorrect (done : List StatusCall) (call : StatusCall) (hdone : done ++ [call] <+: calls) :
        call.Correct (ledsAfter done) := (call.correct_iff_settled _).mpr (h done call hdone)
    constructor
    · intro done hdone
      apply atMostOneEnabled_ledsAfter
      exact fun before call hbefore ↦ hcorrect before call (hbefore.trans hdone)
    · exact hcorrect

/-- The device reports a lost connection, then a connection, and the LED manager refuses to disable
the status of the lost one. -/
def refusedReconnect : List StatusCall :=
  [{ args := some "disconnected".toList, inputs := reading fun _ ↦ true },
    { args := some "connected".toList, inputs := reading (· ≠ .disconnectedConnectingWithTLS) }]
where
  reading (accepts : LedStatus → Bool) : StatusInputs :=
    { mqttHost := some "console".toList
      projectId := none
      registerToken := none
      evpTls := some .enable
      ledManagerAccepts := accepts }

theorem not_runCorrect_refusedReconnect : ¬ RunCorrect refusedReconnect := by
  intro h
  have hboth := h.atMostOneEnabled refusedReconnect (List.prefix_refl _) .connectedWithTLS
    .disconnectedConnectingWithTLS (by decide) (by decide)
  cases hboth

end EdgeDeviceCore.Notifications
