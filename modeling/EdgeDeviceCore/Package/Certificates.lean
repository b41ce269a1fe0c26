import EdgeDeviceCore.Esf.ValueText
import EdgeDeviceCore.Package.Lifecycle

/-!
# Client certificates on a configured device

The documented setup removes the placeholders of the package from `/etc/evp` and puts the files of
the user there. Every configuration, such as that of an upgrade, puts the placeholders back. They are
empty, and `get_cert_key_path` takes the first name that it is listed, so after a configuration the
order of the directory decides whether the agent has its certificate.
-/

open EdgeDeviceCore.Platform
open EdgeDeviceCore.Semantics StoppedRun
open EdgeDeviceCore.Esf

namespace EdgeDeviceCore.Package

/-- The placeholder that stands for a certificate or a key. -/
def placeholder : ClientKey → CString
  | .mqttTlsClientCert => certPlaceholder
  | .mqttTlsClientKey => keyPlaceholder

theorem suffix_placeholder_iff (key other : ClientKey) :
    (strstr (placeholder other) key.suffix).isSome = true ↔ other = key := by
  cases key <;> cases other <;> decide +kernel

/-! ## Candidates -/

section Candidates

variable {Path : Type} [DecidableEq Path]

/-- The files whose names contain the suffix. -/
def Device.candidates (device : Device Path) (key : ClientKey) : List (CString × List Char) :=
  device.evp.filter fun file ↦ (strstr file.1 key.suffix).isSome

/-- Only the file of the user, or the placeholder behind it. -/
def Device.Keeps (device : Device Path) (key : ClientKey) (file : CString × List Char) : Prop :=
  device.candidates key = [file] ∨ device.candidates key = [file, (placeholder key, [])]

omit [DecidableEq Path] in
theorem mem_candidates {device : Device Path} {key : ClientKey} {file : CString × List Char}
    (hmem : file ∈ device.evp) (hcontains : (strstr file.1 key.suffix).isSome = true) :
    file ∈ device.candidates key :=
  List.mem_filter.mpr ⟨hmem, hcontains⟩

variable {db : Path} {key : ClientKey} {file : CString × List Char}
  (hname : file.1 ≠ placeholder key)

include hname

omit [DecidableEq Path] in
/-- A placeholder in the directory is behind the file of the user. -/
theorem candidates_of_placeholder {device : Device Path} (h : device.Keeps key file)
    (hmem : placeholder key ∈ device.evp.map Prod.fst) :
    device.candidates key = [file, (placeholder key, [])] := by
  obtain ⟨other, hother, hplaceholder⟩ := List.mem_map.mp hmem
  rcases h with hfile | hboth
  · have hcandidate : other ∈ device.candidates key :=
      mem_candidates hother (hplaceholder ▸ (suffix_placeholder_iff key key).mpr rfl)
    rw [hfile, List.mem_singleton] at hcandidate
    exact absurd (hcandidate ▸ hplaceholder) hname
  · exact hboth

omit [DecidableEq Path] in
theorem candidates_touch {device touched : Device Path} {other : ClientKey}
    (h : device.Keeps key file) (htouched : touched.evp = touchFile (placeholder other) device.evp) :
    touched.candidates key =
      if other = key then [file, (placeholder key, [])] else device.candidates key := by
  rw [Device.candidates, htouched, touchFile]
  by_cases hmem : placeholder other ∈ device.evp.map Prod.fst
  · rw [if_pos hmem]
    split_ifs with hkey
    · subst hkey
      exact candidates_of_placeholder hname h hmem
    · rfl
  · rw [if_neg hmem, List.filter_append]
    change device.candidates key ++ _ = _
    split_ifs with hkey
    · subst hkey
      have hcontains : (strstr (placeholder other) other.suffix).isSome = true :=
        (suffix_placeholder_iff other other).mpr rfl
      rw [List.filter_singleton, hcontains]
      rcases h with hfile | hboth
      · rw [hfile]
        rfl
      · have hplaceholder : (placeholder other, []) ∈ device.candidates other := by simp [hboth]
        exact absurd (List.mem_map_of_mem (List.mem_filter.mp hplaceholder).1) hmem
    · have hcontains : ¬ (strstr (placeholder other) key.suffix).isSome = true :=
        fun h ↦ hkey ((suffix_placeholder_iff key other).mp h)
      rw [List.filter_singleton, Bool.eq_false_iff.mpr hcontains]
      exact List.append_nil _

/-- Commands that leave `/etc/evp` but for placeholders. -/
def SparesEvp (command : Command) : Prop :=
  command ≠ .rmEvp ∧ ∀ name, command = .touch name → ∃ key, name = placeholder key

variable [PythonRelease]

/-- An operation leaves the candidates, or it puts the placeholder behind the file of the user. -/
theorem candidates_step {commands : List Command} {tools : List Char → List Char → Prop}
    (hcommands : ∀ command ∈ commands, SparesEvp command) {op : ScriptOp}
    (hop : Uses commands tools op) (answer : Answer Path) {state : ScriptState Path}
    (h : state.device.Keeps key file) :
    (step db op answer state).2.device.candidates key = state.device.candidates key ∨
      op = .command (.touch (placeholder key)) ∧
        (step db op answer state).2.device.candidates key = [file, (placeholder key, [])] := by
  cases op with
  | test test => exact .inl rfl
  | tool key value | warn key =>
      rw [step]
      split_ifs <;> exact .inl rfl
  | command command =>
      change (command.run db answer state.device).2.candidates key = _ ∨
        _ ∧ (command.run db answer state.device).2.candidates key = _
      obtain ⟨hspares, htouches⟩ := hcommands command hop
      cases command with
      | rmEvp => exact absurd rfl hspares
      | elsewhere | rmData => exact .inl rfl
      | createTable | stopService | disableService =>
          rw [Command.run]
          split_ifs <;> exact .inl rfl
      | touch name =>
          obtain ⟨other, rfl⟩ := htouches name rfl
          rw [Command.run]
          split_ifs
          · have htouched : ({ state.device with
                  evp := touchFile (placeholder other) state.device.evp } : Device Path).candidates
                key = if other = key then [file, (placeholder key, [])]
                  else state.device.candidates key :=
              candidates_touch hname h rfl
            split_ifs at htouched with hkey
            · subst hkey
              exact .inr ⟨rfl, htouched⟩
            · exact .inl htouched
          · exact .inl rfl

theorem keeps_step {commands : List Command} {tools : List Char → List Char → Prop}
    (hcommands : ∀ command ∈ commands, SparesEvp command) {op : ScriptOp}
    (hop : Uses commands tools op) (answer : Answer Path) {state : ScriptState Path}
    (h : state.device.Keeps key file) : (step db op answer state).2.device.Keeps key file := by
  rcases candidates_step hname hcommands hop answer h with hsame | ⟨-, hboth⟩
  · rw [Device.Keeps, hsame]
    exact h
  · exact .inr hboth

/-- A placeholder stays. -/
theorem placeholder_step {commands : List Command} {tools : List Char → List Char → Prop}
    (hcommands : ∀ command ∈ commands, SparesEvp command) {op : ScriptOp}
    (hop : Uses commands tools op) (answer : Answer Path) {state : ScriptState Path}
    (h : state.device.candidates key = [file, (placeholder key, [])]) :
    (step db op answer state).2.device.candidates key = [file, (placeholder key, [])] := by
  rcases candidates_step hname hcommands hop answer (.inr h) with hsame | ⟨-, hboth⟩
  · rw [hsame, h]
  · exact hboth

end Candidates

/-! ## Configurations -/

theorem sparesEvp_postinst : ∀ command ∈ [Command.elsewhere, .touch certPlaceholder,
    .touch keyPlaceholder, .createTable], SparesEvp command := by
  simp only [List.mem_cons, List.not_mem_nil, or_false]
  rintro command (rfl | rfl | rfl | rfl)
  · exact ⟨by decide, fun name h ↦ by cases h⟩
  · refine ⟨by simp, fun name h ↦ ⟨.mqttTlsClientCert, ?_⟩⟩
    exact (Command.touch.inj h).symm
  · refine ⟨by simp, fun name h ↦ ⟨.mqttTlsClientKey, ?_⟩⟩
    exact (Command.touch.inj h).symm
  · exact ⟨by decide, fun name h ↦ by cases h⟩

section Configurations

variable {Path : Type} [DecidableEq Path] [PythonRelease] {db : Path} {key : ClientKey}
  {file : CString × List Char} (hname : file.1 ≠ placeholder key)

include hname

theorem throughout_touchPlaceholders {state : ScriptState Path}
    (h : state.device.Keeps key file) :
    Throughout (stepOn db id) (fun _ ↦ True)
      (fun _ later ↦ later.device.candidates key = [file, (placeholder key, [])])
      touchPlaceholders state := by
  have htouched (other : ClientKey) (later : ScriptState Path) (hlater : later.device.Keeps key file)
      (hkey : other = key) : Throughout (stepOn db id) (fun _ ↦ True)
        (fun _ after ↦ after.device.candidates key = [file, (placeholder key, [])])
        (command (.touch (placeholder other))) later := by
    apply throughout_command
    intro answer (hruns : answer.succeeds = true)
    refine (candidates_touch hname hlater ?_).trans (if_pos hkey)
    exact congrArg Device.evp (if_pos hruns)
  have htouches (other : ClientKey) : Issues PostinstOp (command (.touch (placeholder other))) := by
    cases other <;> exact issues_command (by decide)
  cases key with
  | mqttTlsClientCert =>
      apply (htouched .mqttTlsClientCert state h rfl).bind
      intro _ later hlater
      exact throughout_kept (htouches .mqttTlsClientKey)
        (fun op hop answer _ hboth ↦ placeholder_step hname sparesEvp_postinst hop answer hboth)
        hlater
  | mqttTlsClientKey =>
      have hfirst : Throughout (stepOn db id) (fun _ ↦ True)
          (fun _ later ↦ later.device.Keeps .mqttTlsClientKey file)
          (command (.touch certPlaceholder)) state :=
        throughout_kept (htouches .mqttTlsClientCert)
          (fun op hop answer _ hkeeps ↦ keeps_step hname sparesEvp_postinst hop answer hkeeps) h
      apply hfirst.bind
      intro _ later hlater
      exact htouched .mqttTlsClientKey later hlater rfl

/-- A configuration does not finish before the placeholder is there. -/
theorem placeholder_postinst {device : Device Path} {answers : List (Answer Path)}
    (h : device.Keeps key file)
    (hfinished : (runScript db postinst answers device).1 = .finished ()) :
    (runScript db postinst answers device).2.device.candidates key =
      [file, (placeholder key, [])] := by
  have hdirectories : Issues PostinstOp makeDirectories := issues_makeDirectories (by decide)
  have hrest : Issues PostinstOp
      (setUpDatabase >>= fun _ ↦ reloadUdevRules >>= fun _ ↦ reloadDaemon) :=
    issues_setUpDatabase.bind fun _ ↦
      (issues_reloadUdevRules (by decide)).bind fun _ ↦ issues_reloadDaemon (by decide)
  have hfirst : Throughout (stepOn db id) (fun _ ↦ True)
      (fun _ later ↦ later.device.Keeps key file) makeDirectories ⟨device, []⟩ :=
    throughout_kept hdirectories
      (fun op hop answer _ hkeeps ↦ keeps_step hname sparesEvp_postinst hop answer hkeeps) h
  have hpostinst : Throughout (step db) (fun _ ↦ True)
      (fun _ later ↦ later.device.candidates key = [file, (placeholder key, [])]) postinst
      ⟨device, []⟩ := by
    apply hfirst.bind
    intro _ second hsecond
    apply (throughout_touchPlaceholders hname hsecond).bind
    intro _ third hthird
    exact throughout_kept hrest
      (fun op hop answer _ hboth ↦ placeholder_step hname sparesEvp_postinst hop answer hboth)
      hthird
  exact (run_meets hpostinst answers).of_finished hfinished

end Configurations

/-! ## Events -/

/-- Neither a purge nor the user changes the files. -/
def Event.SparesEvp {Path : Type} : Event Path → Prop
  | .postrm purge _ => purge = false
  | .putFile _ _ | .deleteFile _ => False
  | _ => True

def Event.Configures {Path : Type} : Event Path → Prop
  | .postinst _ => True
  | _ => False

section Events

variable {Path : Type} [DecidableEq Path] [PythonRelease] {db : Path} {key : ClientKey}
  {file : CString × List Char} (hname : file.1 ≠ placeholder key)

theorem evp_step {commands : List Command} {tools : List Char → List Char → Prop}
    (hcommands : ∀ command ∈ commands, command ≠ .rmEvp ∧ ∀ name, command ≠ .touch name)
    {op : ScriptOp} (hop : Uses commands tools op) (answer : Answer Path)
    (state : ScriptState Path) : (step db op answer state).2.device.evp = state.device.evp := by
  cases op with
  | test test => rfl
  | tool key value | warn key =>
      rw [step]
      split_ifs <;> rfl
  | command command =>
      change (command.run db answer state.device).2.evp = _
      obtain ⟨hremoves, htouches⟩ := hcommands command hop
      cases command with
      | rmEvp => exact absurd rfl hremoves
      | touch name => exact absurd rfl (htouches name)
      | elsewhere | rmData => rfl
      | createTable | stopService | disableService =>
          rw [Command.run]
          split_ifs <;> rfl

/-- Only a configuration touches the placeholders. -/
theorem evp_after {device after : Device Path} {event : Event Path} (hspares : event.SparesEvp)
    (hconfigures : ¬ event.Configures) (hafter : device.after db event = some after) :
    after.evp = device.evp := by
  cases event with
  | postinst answers => exact absurd trivial hconfigures
  | prerm answers =>
      obtain rfl := Option.some.inj hafter
      have hcommands : ∀ command ∈ [Command.elsewhere, .stopService, .disableService],
          command ≠ .rmEvp ∧ ∀ name, command ≠ .touch name := by simp
      have hstep : ∀ op, PrermOp op → ∀ answer ∈ answers, ∀ state : ScriptState Path,
          state.device.evp = device.evp → (step db op answer state).2.device.evp = device.evp :=
        fun op hop answer _ state h ↦ (evp_step hcommands hop answer state).trans h
      exact issues_prerm.run hstep rfl
  | postrm purge answers =>
      obtain rfl : purge = false := hspares
      obtain rfl := Option.some.inj hafter
      have hcommands : ∀ command ∈ [Command.elsewhere],
          command ≠ .rmEvp ∧ ∀ name, command ≠ .touch name := by simp
      have hstep : ∀ op, PostrmOp false op → ∀ answer ∈ answers, ∀ state : ScriptState Path,
          state.device.evp = device.evp → (step db op answer state).2.device.evp = device.evp :=
        fun op hop answer _ state h ↦ (evp_step hcommands hop answer state).trans h
      exact (issues_postrm false).run hstep rfl
  | invoke invocation =>
      obtain ⟨files, -, rfl⟩ := Option.map_eq_some_iff.mp hafter
      rfl
  | systemctl action =>
      obtain rfl := Option.some.inj hafter
      cases action <;> rfl
  | unpack | removeFiles | boot =>
      obtain rfl := Option.some.inj hafter
      rfl
  | putFile name content | deleteFile name => exact hspares.elim

theorem evp_runEvents {device after : Device Path} {events : List (Event Path)}
    (hspares : ∀ event ∈ events, event.SparesEvp) (hconfigures : ∀ event ∈ events,
      ¬ event.Configures) (hrun : runEvents db device events = some after) :
    after.evp = device.evp := by
  induction events generalizing device with
  | nil => rw [Option.some.inj hrun]
  | cons event events ih =>
      obtain ⟨middle, hmiddle, hrest⟩ := runEvents_cons.mp hrun
      have hsame := evp_after (hspares event List.mem_cons_self)
        (hconfigures event List.mem_cons_self) hmiddle
      rw [← hsame]
      exact ih (fun other hmem ↦ hspares other (List.mem_cons_of_mem _ hmem))
        (fun other hmem ↦ hconfigures other (List.mem_cons_of_mem _ hmem)) hrest

/-- What a configuration keeps wherever it stops, any events keep. -/
theorem kept_events (kept : List (CString × List Char) → Prop)
    (hkept : ∀ op, PostinstOp op → ∀ answer (state : ScriptState Path),
      kept (state.device.candidates key) → kept ((step db op answer state).2.device.candidates key))
    {device after : Device Path} {events : List (Event Path)}
    (hspares : ∀ event ∈ events, event.SparesEvp) (hdevice : kept (device.candidates key))
    (hrun : runEvents db device events = some after) : kept (after.candidates key) := by
  induction events generalizing device with
  | nil => rwa [← Option.some.inj hrun]
  | cons event events ih =>
      obtain ⟨middle, hmiddle, hrest⟩ := runEvents_cons.mp hrun
      apply ih (fun other hmem ↦ hspares other (List.mem_cons_of_mem _ hmem)) _ hrest
      by_cases hconfigures : event.Configures
      · cases event with
        | postinst answers =>
            obtain rfl := Option.some.inj hmiddle
            exact issues_postinst.run (fun op hop answer _ state ↦ hkept op hop answer state) hdevice
        | _ => exact hconfigures.elim
      · have hsame := evp_after (hspares event List.mem_cons_self) hconfigures hmiddle
        rw [Device.candidates, hsame]
        exact hdevice

end Events

/-! ## What the agent reads -/

section Reading

variable {Path : Type}

/-- An order in which `readdir` returns the entries of `/etc/evp`. -/
def Device.Lists (device : Device Path) (listing : List CString) : Prop :=
  listing.Perm ([".".toList, "..".toList] ++ device.evp.map Prod.fst)

/-- `/etc/evp` where everything can be read, and `EVP_CERT_KEY_DIR_PATH` is not set. -/
def Device.certKeyAnswers (device : Device Path) (listing : List CString) :
    ReadConfig.CertKeyAnswers where
  path := ⟨none, some listing, true⟩
  file path :=
    match device.evp.find? fun file ↦ entryPath mqttTlsClientCertKeyDefaultDir file.1 = path with
    | some file => .content file.2
    | none => .unopenable

variable {device : Device Path} {key : ClientKey} {listing : List CString}

/-- The entries that contain the suffix, in the order of the directory. -/
theorem perm_filter_listing (h : device.Lists listing) :
    (listing.filter fun name ↦ (strstr name key.suffix).isSome).Perm
      ((device.candidates key).map Prod.fst) := by
  have hdots : [".".toList, "..".toList].filter (fun name ↦ (strstr name key.suffix).isSome) =
      [] := by
    cases key <;> decide +kernel
  refine (h.filter _).trans ?_
  rw [List.filter_append, hdots, List.nil_append, List.filter_map]
  rfl

theorem entryPath_inj {dirPath name other : CString} :
    entryPath dirPath name = entryPath dirPath other ↔ name = other :=
  ⟨fun h ↦ List.tail_eq_of_cons_eq (List.append_cancel_left h), fun h ↦ h ▸ rfl⟩

/-- The content of a candidate is found under its path. -/
theorem file_certKeyAnswers {file : CString × List Char} (hmem : file ∈ device.candidates key)
    (honly : ∀ other ∈ device.candidates key, other.1 = file.1 → other = file) :
    (device.certKeyAnswers listing).file (entryPath mqttTlsClientCertKeyDefaultDir file.1) =
      .content file.2 := by
  obtain ⟨hfile, hcontains⟩ := List.mem_filter.mp hmem
  simp only [Device.certKeyAnswers, entryPath_inj]
  cases hfound : device.evp.find? fun other ↦ decide (other.1 = file.1) with
  | none =>
      have hdiffers := List.find?_eq_none.mp hfound file hfile
      simp at hdiffers
  | some other =>
      have hsame : other.1 = file.1 := by simpa using List.find?_some hfound
      have hother : other ∈ device.candidates key :=
        mem_candidates (List.mem_of_find?_eq_some hfound) (hsame ▸ hcontains)
      rw [honly other hother hsame]

theorem selectedContent_of_first [Errno] {file : CString × List Char}
    (hmem : file ∈ device.candidates key)
    (honly : ∀ other ∈ device.candidates key, other.1 = file.1 → other = file)
    (hfirst : firstContaining key.suffix listing = some file.1) :
    ReadConfig.selectedContent (device.certKeyAnswers listing) key = some file.2 := by
  have hpath : getCertKeyPath (device.certKeyAnswers listing).path key =
      (0, some (entryPath mqttTlsClientCertKeyDefaultDir file.1)) :=
    scanDirectory_of_some hfirst
  rw [ReadConfig.selectedContent, hpath, if_pos rfl]
  dsimp only
  rw [Option.map_some, file_certKeyAnswers hmem honly]

theorem firstContaining_eq_head? (suffix : CString) :
    firstContaining suffix listing =
      (listing.filter fun name ↦ (strstr name suffix).isSome).head? :=
  List.head?_filter.symm

theorem selectedContent_of_single [Errno] {file : CString × List Char}
    (h : device.candidates key = [file]) (hlisting : device.Lists listing) :
    ReadConfig.selectedContent (device.certKeyAnswers listing) key = some file.2 := by
  have hperm : (listing.filter fun name ↦ (strstr name key.suffix).isSome).Perm
      ((device.candidates key).map Prod.fst) := perm_filter_listing hlisting
  rw [h, List.map_singleton, List.perm_singleton] at hperm
  apply selectedContent_of_first
  · rw [h]
    exact List.mem_singleton_self file
  · intro other hother _
    rwa [h, List.mem_singleton] at hother
  · rw [firstContaining_eq_head?, hperm]
    rfl

/-- With the placeholder there, the order of the directory decides. -/
theorem selectedContent_of_both [Errno] {file : CString × List Char}
    (hname : file.1 ≠ placeholder key)
    (h : device.candidates key = [file, (placeholder key, [])]) (hlisting : device.Lists listing) :
    ReadConfig.selectedContent (device.certKeyAnswers listing) key =
      some (if [file.1, placeholder key].Sublist listing then file.2 else []) := by
  have hperm : (listing.filter fun name ↦ (strstr name key.suffix).isSome).Perm
      [file.1, placeholder key] := by
    have hcandidates : (listing.filter fun name ↦ (strstr name key.suffix).isSome).Perm
        ((device.candidates key).map Prod.fst) := perm_filter_listing hlisting
    rwa [h] at hcandidates
  have honly : ∀ first ∈ device.candidates key, ∀ other ∈ device.candidates key,
      other.1 = first.1 → other = first := by
    rw [h]
    simp only [List.mem_cons, List.not_mem_nil, or_false]
    rintro first (rfl | rfl) other (rfl | rfl) hsame
    · rfl
    · exact absurd hsame.symm hname
    · exact absurd hsame hname
    · rfl
  rcases List.perm_pair.mp hperm with horder | horder
  · have hsublist : [file.1, placeholder key].Sublist listing := horder ▸ List.filter_sublist
    have hmem : file ∈ device.candidates key := by simp [h]
    rw [if_pos hsublist]
    apply selectedContent_of_first hmem (honly file hmem)
    rw [firstContaining_eq_head?, horder]
    rfl
  · have hsublist : ¬ [file.1, placeholder key].Sublist listing := by
      intro hsublist
      have hfiltered : [file.1, placeholder key].Sublist [placeholder key, file.1] := by
        rw [← horder]
        have hkept : [file.1, placeholder key].filter (fun name ↦ (strstr name key.suffix).isSome) =
            [file.1, placeholder key] := by
          apply List.filter_eq_self.mpr
          intro name hmem
          have hlisted : name ∈ listing.filter fun name ↦ (strstr name key.suffix).isSome :=
            hperm.mem_iff.mpr hmem
          exact (List.mem_filter.mp hlisted).2
        rw [← hkept]
        exact hsublist.filter _
      exact hname (List.cons.inj (hfiltered.eq_of_length rfl)).1
    have hmem : (placeholder key, []) ∈ device.candidates key := by simp [h]
    rw [if_neg hsublist]
    apply selectedContent_of_first hmem (honly _ hmem)
    rw [firstContaining_eq_head?, horder]
    rfl

end Reading

/-! ## The file of the user -/

section User

variable {Path : Type} [DecidableEq Path] [PythonRelease] {db : Path} {key : ClientKey}
  {file : CString × List Char}

/-- A configuration finished among the events. -/
def Configured (db : Path) (device : Device Path) (events : List (Event Path)) : Prop :=
  ∃ before answers rest middle, events = before ++ .postinst answers :: rest ∧
    runEvents db device before = some middle ∧
    (runScript db postinst answers middle).1 = .finished ()

/-- A configuration that finished leaves the placeholder for as long as the files are spared. -/
theorem candidates_of_configured (hname : file.1 ≠ placeholder key) {device after : Device Path}
    {events : List (Event Path)} (hdevice : device.candidates key = [file])
    (hspares : ∀ event ∈ events, event.SparesEvp) (hconfigured : Configured db device events)
    (hrun : runEvents db device events = some after) :
    after.candidates key = [file, (placeholder key, [])] := by
  obtain ⟨before, answers, rest, middle, rfl, hbefore, hfinished⟩ := hconfigured
  obtain ⟨other, hother, hlater⟩ := TransitionRun.run_append.mp hrun
  obtain rfl : middle = other := Option.some.inj (hbefore.symm.trans hother)
  obtain ⟨configured, hpostinst, hrest⟩ := runEvents_cons.mp hlater
  obtain rfl := Option.some.inj hpostinst
  have hkeeps : middle.Keeps key file :=
    kept_events (fun candidates ↦ candidates = [file] ∨ candidates = [file, (placeholder key, [])])
      (fun op hop answer _ h ↦ keeps_step hname sparesEvp_postinst hop answer h)
      (fun event hmem ↦ hspares event (List.mem_append_left _ hmem)) (.inl hdevice) hbefore
  exact kept_events (fun candidates ↦ candidates = [file, (placeholder key, [])])
    (fun op hop answer _ h ↦ placeholder_step hname sparesEvp_postinst hop answer h)
    (fun event hmem ↦ hspares event (List.mem_append_right _ (List.mem_cons_of_mem _ hmem)))
    (placeholder_postinst hname hkeeps hfinished) hrest

variable [Errno] [ReadConfig.MaxSizes] [ReadConfig.KeyNumbers]

/-- What a read of the key gives in this order of the directory, where no allocation fails: as much of
the text as the buffer of the key has room for, with its terminators, or nothing if there is none.
The directory is `/etc/evp`. -/
def Device.Reads (device : Device Path) (key : ClientKey) (listing : List CString)
    (content : List Char) : Prop :=
  ∀ sources : ReadConfig.Sources, sources.certKey = device.certKeyAnswers listing →
    sources.calloc = true → sources.malloc = true →
      (ReadConfig.evpAgentEsfReadConfig sources
          (ReadConfig.KeyNumbers.number (.client key))).config.map ReadConfig.Config.value =
        if content = [] then none
        else some (ReadConfig.padded (content.take (ReadConfig.SizedKey.client key).maxSize)
          ((ReadConfig.SizedKey.client key).maxSize + 1))

omit [DecidableEq Path] [PythonRelease] in
theorem reads_of_selected {device : Device Path} {listing : List CString} {content : List Char}
    (h : ReadConfig.selectedContent (device.certKeyAnswers listing) key = some content) :
    device.Reads key listing content := by
  intro sources hsources hcalloc hmalloc
  rw [← hsources] at h
  split_ifs with hcontent
  · have hunread : ∀ other, ReadConfig.selectedContent sources.certKey key = some other →
        other = [] :=
      fun other hother ↦ hcontent ▸ Option.some.inj (hother.symm.trans h)
    rw [Option.map_eq_none_iff, Option.eq_none_iff_forall_ne_some]
    intro config hconfig
    obtain ⟨-, -, hok, -⟩ := ReadConfig.readConfig_eq_some_iff.mp hconfig
    rw [ReadConfig.filledBuffer_client_of_unread hunread] at hok
    exact Bool.false_ne_true hok
  · obtain ⟨hok, hcells⟩ := ReadConfig.filledBuffer_client h hcontent
    rw [ReadConfig.readConfig_eq_some_iff.mpr ⟨hcalloc, hmalloc, hok, rfl⟩, Option.map_some, hcells]

/-- The setup of the documentation, with one file of the user for the key, and any events after it
that spare `/etc/evp`. Without a configuration the agent reads the file in every order of the
directory, and with one that finished only if the file is listed before the placeholder. -/
theorem certificate_of_user (hname : file.1 ≠ placeholder key) {device after : Device Path}
    {events : List (Event Path)} (hdevice : device.candidates key = [file])
    (hspares : ∀ event ∈ events, event.SparesEvp) (hrun : runEvents db device events = some after)
    {listing : List CString} (hlisting : after.Lists listing) :
    ((∀ event ∈ events, ¬ event.Configures) → after.Reads key listing file.2) ∧
      (Configured db device events → after.Reads key listing
        (if [file.1, placeholder key].Sublist listing then file.2 else [])) := by
  constructor
  · intro hconfigures
    apply reads_of_selected
    apply selectedContent_of_single _ hlisting
    rw [Device.candidates, evp_runEvents hspares hconfigures hrun]
    exact hdevice
  · intro hconfigured
    apply reads_of_selected
    exact selectedContent_of_both hname
      (candidates_of_configured hname hdevice hspares hconfigured hrun) hlisting

end User

section

attribute [local instance] Psm.asciiRelease Errno.linux ReadConfig.sizes64
  ReadConfig.KeyNumbers.inOrder

/-- The setup of the documentation. -/
def setUpDevice : Device ℕ :=
  { bareDevice with evp := [("dev_cert.pem".toList, ['C']), ("dev_key.pem".toList, ['K'])] }

/-- The package is configured again. -/
def configuredAgain : Ending Unit × ScriptState ℕ :=
  runScript 0 postinst (List.replicate 40 workingAnswer) setUpDevice

/-- The placeholders are listed first. -/
def placeholdersFirst : List CString :=
  [certPlaceholder, keyPlaceholder, "dev_cert.pem".toList, "dev_key.pem".toList, ".".toList,
    "..".toList]

theorem configuredAgain_finished : configuredAgain.1 = .finished () ∧
    placeholdersFirst.Perm ([".".toList, "..".toList] ++
      configuredAgain.2.device.evp.map Prod.fst) := by
  decide +kernel

/-- Then the agent finds no certificate. -/
theorem certificate_of_user_setUpDevice :
    configuredAgain.2.device.Reads .mqttTlsClientCert placeholdersFirst [] := by
  have hname : "dev_cert.pem".toList ≠ placeholder .mqttTlsClientCert := by decide +kernel
  have hdevice : setUpDevice.candidates .mqttTlsClientCert = [("dev_cert.pem".toList, ['C'])] := by
    decide +kernel
  have hrun : runEvents 0 setUpDevice [.postinst (List.replicate 40 workingAnswer)] =
      some configuredAgain.2.device := rfl
  have hspares : ∀ event ∈ [Event.postinst (List.replicate 40 workingAnswer)],
      event.SparesEvp := by
    intro event hevent
    obtain rfl := List.mem_singleton.mp hevent
    exact trivial
  have hconfigured : Configured 0 setUpDevice [.postinst (List.replicate 40 workingAnswer)] :=
    ⟨[], _, [], setUpDevice, rfl, rfl, configuredAgain_finished.1⟩
  have hreads := (certificate_of_user hname hdevice hspares hrun configuredAgain_finished.2).2
    hconfigured
  rwa [if_neg (by decide +kernel)] at hreads

end

end EdgeDeviceCore.Package
