import EdgeDeviceCore.Ota.Script

/-!
# How far a run gets

A run of the script is followed on a few facts: what it has made of its target directory and of
the two links, and which commands it has tried. Each function leads from such a point to another,
and wherever a run stops it is at a point where the links are as they were, or where the target is
complete and the last command on the links tells what they are.
-/

open EdgeDeviceCore.Semantics StoppedRun

namespace EdgeDeviceCore.Ota

/-! ## Histories -/

/-- The command on the links that an entry records, if it succeeded. -/
def madeLink : Command × Bool → Option LinkCommand
  | (.link command, true) => some command
  | _ => none

/-- The last command on the links that succeeded. -/
def lastLink (history : List (Command × Bool)) : Option LinkCommand :=
  (history.filterMap madeLink).getLast?

/-- The directory that an entry's command was tried on. -/
def triedOn : Command × Bool → Option Path
  | (.target directory _, _) => some directory
  | _ => none

/-- Some command was tried on a directory. -/
def Touches (history : List (Command × Bool)) (directory : Path) : Prop :=
  directory ∈ history.filterMap triedOn

theorem lastLink_append (history : List (Command × Bool)) (entry : Command × Bool) :
    lastLink (history ++ [entry]) = (madeLink entry).or (lastLink history) := by
  rw [lastLink, List.filterMap_append, List.getLast?_append, lastLink]
  cases hentry : madeLink entry <;> simp [hentry]

theorem touches_append (history : List (Command × Bool)) (entry : Command × Bool)
    (directory : Path) :
    Touches (history ++ [entry]) directory ↔
      Touches history directory ∨ triedOn entry = some directory := by
  rw [Touches, List.filterMap_append, List.mem_append, Touches]
  cases hentry : triedOn entry <;> simp [hentry, eq_comm]

/-! ## Points -/

/-- What a complete deployment of one version of the package holds. -/
def Deployment.complete (version : String) : Deployment :=
  ⟨some (.ofPackage version), true, some (.ofPackage version), some (.stating version), true⟩

/-- The target of a run. -/
def UpdateInputs.target (inputs : UpdateInputs) (fs : FileSystem) : Path :=
  getTargetDeployment (inputs.readlink fs)

/-- How far a run has got. -/
structure Point where
  /-- Whether a command was tried on the target. -/
  touched : Bool
  node : Node
  last : Option LinkCommand
  links : LinkPath → LinkNode

/-- What the links are after the last command on them that succeeded. -/
def SwitchedBy (target : Path) (initial links : LinkPath → LinkNode) : LinkCommand → Prop
  | .rm path => (∃ text, initial path = .link text) ∧ links path = .absent ∧ links .edc = .absent
  | .ln _ .edc => links .edc = .link target ∧ links .senscord = .absent
  | .ln _ .senscord =>
      links .edc = .link target ∧ links .senscord = .link (senscordTarget target)

/-- The points that a run can come to: it fills its target before it switches the links. -/
structure Point.Sound (inputs : UpdateInputs) (fs : FileSystem) (point : Point) : Prop where
  untouched : point.touched = false → point.node = fs.node (inputs.target fs)
  unlinked : point.last = none → point.links = fs.link
  complete : ∀ command, point.last = some command →
    point.touched = true ∧ point.node = .directory (.complete inputs.coreVersion)
  switched : ∀ command, point.last = some command →
    SwitchedBy (inputs.target fs) fs.link point.links command

/-- The files at a point of a run that began with others. -/
def Point.files (inputs : UpdateInputs) (fs : FileSystem) (point : Point) : FileSystem :=
  ⟨point.links, Function.update fs.node (inputs.target fs) point.node⟩

/-- A run that began with some files is at a point. -/
structure Reached (inputs : UpdateInputs) (fs : FileSystem) (point : Point)
    (state : ScriptState) : Prop where
  sound : point.Sound inputs fs
  files : state.fs = point.files inputs fs
  last : lastLink state.history = point.last
  touches : ∀ directory, Touches state.history directory ↔
    point.touched = true ∧ directory = inputs.target fs

/-- The links are still as they were. -/
def Point.filling (fs : FileSystem) (touched : Bool) (node : Node) : Point :=
  ⟨touched, node, none, fs.link⟩

/-- The run has not come to its target yet. -/
def Point.start (inputs : UpdateInputs) (fs : FileSystem) : Point :=
  .filling fs false (fs.node (inputs.target fs))

section Points

variable {inputs : UpdateInputs} {fs : FileSystem} {point : Point}

theorem sound_start : (Point.start inputs fs).Sound inputs fs :=
  ⟨fun _ ↦ rfl, fun _ ↦ rfl, nofun, nofun⟩

theorem sound_filling {node : Node} : (Point.filling fs true node).Sound inputs fs :=
  ⟨nofun, fun _ ↦ rfl, nofun, nofun⟩

/-- `/opt/edc` is as it was, absent, or a link to the target when that is complete. -/
theorem Point.Sound.edc_cases (h : point.Sound inputs fs) :
    point.links = fs.link ∨ point.links .edc = .absent ∨
      point.links .edc = .link (inputs.target fs) ∧
        point.node = .directory (.complete inputs.coreVersion) := by
  rcases hlast : point.last with _ | path | ⟨text, _ | _⟩
  · exact .inl (h.unlinked hlast)
  · exact .inr (.inl (h.switched _ hlast).2.2)
  · exact .inr (.inr ⟨(h.switched _ hlast).1, (h.complete _ hlast).2⟩)
  · exact .inr (.inr ⟨(h.switched _ hlast).1, (h.complete _ hlast).2⟩)

theorem reached_start : Reached inputs fs (Point.start inputs fs) ⟨fs, []⟩ where
  sound := sound_start
  files := by rw [Point.files, Point.start, Point.filling, Function.update_eq_self]
  last := rfl
  touches := fun directory ↦ by simp [Touches, Point.start, Point.filling]

end Points

/-! ## Operations -/

/-- A program of the script leads from a point to others. -/
abbrev Script.LeadsFrom {Result : Type} (inputs : UpdateInputs) (fs : FileSystem)
    (program : Script Result) (point : Point) (post : Result → Point → Prop) : Prop :=
  Leads (step inputs) (Reached inputs fs) program point post

/-- A program of the script leads from a point to one other. -/
abbrev Script.LeadsTo {Result : Type} (inputs : UpdateInputs) (fs : FileSystem)
    (program : Script Result) (point later : Point) : Prop :=
  Leads (step inputs) (Reached inputs fs) program point fun _ result ↦ result = later

section Operations

variable {inputs : UpdateInputs} {fs : FileSystem} {point : Point}

theorem leadsFrom_test (condition : Test) :
    (test condition).LeadsFrom inputs fs point fun reply later ↦
      reply = (point.files inputs fs).holds condition ∧ later = point := by
  apply leads_issue
  intro state hstate outcome
  exact ⟨point, ⟨congrArg (FileSystem.holds · condition) hstate.files, rfl⟩, hstate⟩

theorem leadsFrom_errorExit {message : String} {post : Unit → Point → Prop} :
    (errorExit message).LeadsFrom inputs fs point post := by
  apply leads_issue
  intro state hstate outcome
  exact ⟨point, hstate⟩

/-- A condition that is required holds where the run goes on. -/
theorem leadsFrom_require {condition : Bool} {message : String} :
    (require condition message).LeadsFrom inputs fs point fun _ later ↦
      condition = true ∧ later = point := by
  cases condition with
  | false => exact leadsFrom_errorExit
  | true => exact leads_done ⟨rfl, rfl⟩

theorem leadsFrom_requireTest {condition : Test} {message : String} :
    (requireTest condition message).LeadsFrom inputs fs point fun _ later ↦
      (point.files inputs fs).holds condition = true ∧ later = point := by
  apply Leads.bind (leadsFrom_test condition)
  rintro reply _ ⟨rfl, rfl⟩
  exact leadsFrom_require

/-- What a command makes of a point, whether it succeeds or fails. -/
def Command.Moves (inputs : UpdateInputs) (fs : FileSystem) (command : Command) (point : Point)
    (post : Bool → Point → Prop) : Prop :=
  ∀ state outcome, Reached inputs fs point state → ∃ later,
    post (state.perform command outcome).1.isSome later ∧
      Reached inputs fs later (state.perform command outcome).2

theorem Command.Moves.command {moved : Command} {post : Bool → Point → Prop}
    (h : moved.Moves inputs fs point post) :
    (command moved).LeadsFrom inputs fs point fun _ ↦ post true := by
  apply leads_issue
  intro state hstate outcome
  obtain ⟨later, hpost, hlater⟩ := h state outcome hstate
  rw [step]
  rcases hperform : state.perform moved outcome with ⟨_ | _, after⟩
  · rw [hperform] at hlater
    exact ⟨later, hlater⟩
  · rw [hperform] at hpost hlater
    exact ⟨later, hpost, hlater⟩

theorem Command.Moves.orExit {moved : Command} {message : String} {post : Bool → Point → Prop}
    (h : moved.Moves inputs fs point post) :
    (orExit moved message).LeadsFrom inputs fs point fun _ ↦ post true := by
  have hattempt : Script.LeadsFrom inputs fs (.issue (.attempt moved) .done) point post :=
    leads_issue fun state hstate outcome ↦ h state outcome hstate
  apply Leads.bind hattempt
  intro reply later hpost
  apply Leads.mono leadsFrom_require
  rintro _ _ ⟨rfl, rfl⟩
  exact hpost

/-! ### Commands that leave the files as they are -/

/-- Lines of the log and commands elsewhere. -/
inductive Command.IsAside : Command → Prop where
  | log : IsAside .log
  | elsewhere : IsAside .elsewhere

theorem Command.IsAside.moves {command : Command} (h : command.IsAside) :
    command.Moves inputs fs point fun _ later ↦ later = point := by
  intro state outcome hstate
  have hrecord (succeeded : Bool) :
      Reached inputs fs point ⟨state.fs, state.history ++ [(command, succeeded)]⟩ := by
    refine ⟨hstate.sound, hstate.files, ?_, fun directory ↦ ?_⟩
    · rw [lastLink_append]
      cases h <;> exact hstate.last
    · rw [touches_append, ← hstate.touches directory]
      cases h <;> simp [triedOn]
  refine ⟨point, rfl, ?_⟩
  cases h <;> cases outcome <;> exact hrecord _

theorem leadsTo_log : log.LeadsTo inputs fs point point :=
  Command.IsAside.log.moves.command

theorem leadsTo_elsewhere : elsewhere.LeadsTo inputs fs point point :=
  Command.IsAside.elsewhere.moves.command

/-! ### Commands on the target -/

theorem target_moves (targetCommand : TargetCommand) {touched : Bool} {node : Node} :
    (Command.target (inputs.target fs) targetCommand).Moves inputs fs (.filling fs touched node)
      fun succeeded later ↦ ∃ left, later = .filling fs true left ∧
        (succeeded = true → targetCommand.effect node = some left) := by
  intro state outcome hstate
  have hrecord (left : Node) (succeeded : Bool) :
      Reached inputs fs (.filling fs true left)
        ⟨{ state.fs with node := Function.update state.fs.node (inputs.target fs) left },
          state.history ++ [(.target (inputs.target fs) targetCommand, succeeded)]⟩ := by
    refine ⟨sound_filling, ?_, ?_, fun directory ↦ ?_⟩
    · rw [hstate.files]
      simp [Point.files, Point.filling]
    · rw [lastLink_append]
      exact hstate.last
    · rw [touches_append, hstate.touches directory]
      simp [triedOn, Point.filling, eq_comm]
  have hnode : state.fs.node (inputs.target fs) = node := by
    rw [hstate.files]
    exact Function.update_self ..
  cases outcome with
  | fails left => exact ⟨_, ⟨left, rfl, nofun⟩, hrecord left false⟩
  | succeeds =>
      cases heffect : targetCommand.effect node with
      | none =>
          have hsame := hrecord node false
          rw [← hnode, Function.update_eq_self] at hsame
          refine ⟨_, ⟨node, rfl, ?_⟩, ?_⟩
          · simp [ScriptState.perform, Command.effect, hnode, heffect]
          · simpa [ScriptState.perform, Command.effect, hnode, heffect] using hsame
      | some left =>
          refine ⟨_, ⟨left, rfl, fun _ ↦ rfl⟩, ?_⟩
          simpa [ScriptState.perform, Command.effect, hnode, heffect] using hrecord left true

/-- A command on the target that can succeed does what it is for. -/
theorem leadsTo_onTarget {targetCommand : TargetCommand} {touched : Bool} {node left : Node}
    (h : targetCommand.effect node = some left) :
    (onTarget (inputs.target fs) targetCommand).LeadsTo inputs fs (.filling fs touched node)
      (.filling fs true left) := by
  apply Leads.mono (target_moves targetCommand).command
  rintro _ _ ⟨made, rfl, hmade⟩
  rw [Option.some.inj ((hmade rfl).symm.trans h)]

/-! ### Commands on the links -/

/-- The target is complete. -/
def Point.switching (inputs : UpdateInputs) (last : Option LinkCommand)
    (links : LinkPath → LinkNode) : Point :=
  ⟨true, .directory (.complete inputs.coreVersion), last, links⟩

theorem link_moves {linkCommand : LinkCommand} {last : Option LinkCommand}
    {links : LinkPath → LinkNode}
    (h : ∀ made, linkCommand.effect links = some made →
      SwitchedBy (inputs.target fs) fs.link made linkCommand) :
    (Command.link linkCommand).Moves inputs fs (.switching inputs last links)
      fun succeeded later ↦ succeeded = true → ∃ made,
        linkCommand.effect links = some made ∧
          later = .switching inputs (some linkCommand) made := by
  intro state outcome hstate
  have hlinks : state.fs.link = links := by
    rw [hstate.files]
    rfl
  have hfail : Reached inputs fs (.switching inputs last links)
      ⟨state.fs, state.history ++ [(.link linkCommand, false)]⟩ := by
    refine ⟨hstate.sound, hstate.files, ?_, fun directory ↦ ?_⟩
    · rw [lastLink_append]
      exact hstate.last
    · rw [touches_append, ← hstate.touches directory]
      simp [triedOn]
  cases outcome with
  | fails left => exact ⟨_, nofun, hfail⟩
  | succeeds =>
      cases heffect : linkCommand.effect links with
      | none =>
          refine ⟨.switching inputs last links, ?_, ?_⟩
          · simp [ScriptState.perform, Command.effect, hlinks, heffect]
          · simpa [ScriptState.perform, Command.effect, hlinks, heffect] using hfail
      | some made =>
          refine ⟨.switching inputs (some linkCommand) made, fun _ ↦ ⟨made, rfl, rfl⟩, ?_⟩
          have hmade : Reached inputs fs (.switching inputs (some linkCommand) made)
              ⟨{ state.fs with link := made }, state.history ++ [(.link linkCommand, true)]⟩ := by
            refine ⟨⟨nofun, nofun, fun _ _ ↦ ⟨rfl, rfl⟩, ?_⟩, ?_, ?_, fun directory ↦ ?_⟩
            · rintro _ ⟨⟩
              exact h made heffect
            · rw [hstate.files]
              rfl
            · rw [lastLink_append]
              rfl
            · rw [touches_append, hstate.touches directory]
              simp [triedOn, Point.switching]
          simpa [ScriptState.perform, Command.effect, hlinks, heffect] using hmade

end Operations

/-! ## Functions of the script -/

section Functions

variable {inputs : UpdateInputs} {fs : FileSystem} {point : Point}

theorem readlink_of_not_isLink (h : fs.holds (.isLink .edc) = false) :
    inputs.readlink fs = "" := by
  rw [FileSystem.holds] at h
  rw [UpdateInputs.readlink]
  split at h
  · exact nomatch h
  · rfl

theorem leadsFrom_detectCurrentDeployment {touched : Bool} {node : Node} :
    detectCurrentDeployment.LeadsFrom inputs fs (.filling fs touched node) fun reply later ↦
      reply = inputs.readlink fs ∧ later = .filling fs touched node := by
  apply Leads.bind (leadsFrom_test (.isLink .edc))
  rintro reply _ ⟨hreply, rfl⟩
  cases reply with
  | true =>
      apply leads_issue
      intro state hstate outcome
      refine ⟨_, ⟨?_, rfl⟩, hstate⟩
      rw [hstate.files]
      rfl
  | false => exact leads_done ⟨(readlink_of_not_isLink hreply.symm).symm, rfl⟩

/-- Where there is a directory it is removed. -/
theorem leadsFrom_removeDirectory {touched : Bool} {node : Node} :
    (removeDirectory (inputs.target fs)).LeadsFrom inputs fs (.filling fs touched node)
      fun _ later ↦ ∃ touched left, later = .filling fs touched left ∧
        ∀ deployment, left ≠ .directory deployment := by
  apply Leads.bind (leadsFrom_test (.isDirectory (inputs.target fs)))
  rintro reply _ ⟨hreply, rfl⟩
  cases reply with
  | true =>
      apply leadsTo_log.next
      intro _
      apply Leads.mono (leadsTo_onTarget rfl)
      rintro _ _ rfl
      exact ⟨true, .absent, rfl, nofun⟩
  | false =>
      refine leads_done ⟨touched, node, rfl, ?_⟩
      rintro deployment rfl
      simp [FileSystem.holds, FileSystem.deploymentTest, Point.files, Point.filling] at hreply

theorem leadsTo_createDeploymentStructure {touched : Bool} {node : Node} :
    (createDeploymentStructure (inputs.target fs)).LeadsTo inputs fs (.filling fs touched node)
      (.filling fs true (.directory .empty)) := by
  apply leadsTo_log.next
  intro _
  apply Leads.bind leadsFrom_removeDirectory
  rintro _ _ ⟨touched, left, rfl, hleft⟩
  apply Leads.bind (target_moves .mkdir).command
  rintro _ _ ⟨made, rfl, hmade⟩
  cases left with
  | absent =>
      obtain rfl : Node.directory .empty = made := Option.some.inj (hmade rfl)
      exact leadsTo_log
  | directory deployment => exact absurd rfl (hleft deployment)
  | other => exact nomatch hmade rfl

theorem leadsTo_findInPackage {found : Bool} {message : String} :
    (findInPackage found message).LeadsTo inputs fs point point := by
  apply leadsTo_elsewhere.next
  intro _
  cases found with
  | true => exact leadsTo_log
  | false =>
      apply leadsTo_log.next
      intro _
      apply leadsTo_elsewhere.next
      intro _
      exact leadsFrom_errorExit

theorem leadsTo_installCorePackages {deployment : Deployment} :
    (installCorePackages inputs (inputs.target fs)).LeadsTo inputs fs
      (.filling fs true (.directory deployment))
      (.filling fs true (.directory { deployment with
        binary := some (.ofPackage inputs.coreVersion)
        binaryExecutable := true
        library := some (.ofPackage inputs.coreVersion)
        versionEdc := some (.stating inputs.coreVersion) })) := by
  refine leadsTo_log.next fun _ ↦ leadsTo_log.next fun _ ↦ leadsTo_elsewhere.next fun _ ↦ ?_
  refine Leads.next Command.IsAside.elsewhere.moves.orExit fun _ ↦ ?_
  refine leadsTo_findInPackage.next fun _ ↦ leadsTo_findInPackage.next fun _ ↦ ?_
  refine (leadsTo_onTarget rfl).next fun _ ↦ (leadsTo_onTarget rfl).next fun _ ↦ ?_
  refine (leadsTo_onTarget rfl).next fun _ ↦ (leadsTo_onTarget rfl).next fun _ ↦ ?_
  refine leadsTo_elsewhere.next fun _ ↦ leadsTo_elsewhere.next fun _ ↦ ?_
  exact (leadsTo_onTarget rfl).next fun _ ↦ leadsTo_log.next fun _ ↦ leadsTo_log

theorem leadsTo_installSensorPackage {deployment : Deployment} :
    (installSensorPackage inputs (inputs.target fs)).LeadsTo inputs fs
      (.filling fs true (.directory deployment))
      (.filling fs true (.directory { deployment with senscord := true })) := by
  refine leadsTo_log.next fun _ ↦ leadsTo_elsewhere.next fun _ ↦ ?_
  apply Leads.bind leadsFrom_require
  rintro _ _ ⟨-, rfl⟩
  apply leadsTo_log.next
  intro _
  apply Leads.bind (target_moves (.dpkgDebExtract inputs.sensorHasSenscord)).orExit
  rintro _ _ ⟨left, rfl, hleft⟩
  obtain rfl := Option.some.inj (hleft rfl)
  apply Leads.bind leadsFrom_requireTest
  rintro _ _ ⟨hsenscord, rfl⟩
  have hextracted : (deployment.senscord || inputs.sensorHasSenscord) = true := by
    simpa [FileSystem.holds, FileSystem.deploymentTest, Point.files, Point.filling]
      using hsenscord
  rw [hextracted]
  refine leadsTo_elsewhere.next fun _ ↦ leadsTo_elsewhere.next fun _ ↦ ?_
  exact (leadsTo_onTarget rfl).next fun _ ↦ leadsTo_log.next fun _ ↦ leadsTo_log

theorem leadsTo_requireTest {condition : Test} {message : String} :
    (requireTest condition message).LeadsTo inputs fs point point :=
  Leads.mono leadsFrom_requireTest fun _ _ h ↦ h.2

theorem leadsTo_validateInstallation {targetDir : Path} :
    (validateInstallation targetDir).LeadsTo inputs fs point point := by
  refine leadsTo_log.next fun _ ↦ leadsTo_requireTest.next fun _ ↦ ?_
  refine leadsTo_requireTest.next fun _ ↦ leadsTo_requireTest.next fun _ ↦ ?_
  exact leadsTo_log.next fun _ ↦ leadsTo_requireTest.next fun _ ↦ leadsTo_log

/-- A link that is still as it was is gone afterwards, and the other is as before. -/
theorem leadsFrom_removeLink {path : LinkPath} {last : Option LinkCommand}
    {links : LinkPath → LinkNode} (hpath : links path = fs.link path)
    (hedc : path = .edc ∨ links .edc = .absent) :
    (removeLink path).LeadsFrom inputs fs (.switching inputs last links) fun _ later ↦
      ∃ last made, later = .switching inputs last made ∧ made path = .absent ∧
        ∀ other, other ≠ path → made other = links other := by
  apply Leads.bind (leadsFrom_test (.isLink path))
  rintro reply _ ⟨hreply, rfl⟩
  have hmade : ∀ made, LinkCommand.effect (.rm path) links = some made →
      (∃ text, fs.link path = .link text) ∧ made = Function.update links path .absent := by
    intro made hmade
    rw [LinkCommand.effect] at hmade
    split at hmade
    · next text hlink => exact ⟨⟨text, hpath ▸ hlink⟩, (Option.some.inj hmade).symm⟩
    · exact nomatch hmade
  cases reply with
  | true =>
      have hswitched : ∀ made, LinkCommand.effect (.rm path) links = some made →
          SwitchedBy (inputs.target fs) fs.link made (.rm path) := by
        intro made heffect
        obtain ⟨htext, rfl⟩ := hmade made heffect
        refine ⟨htext, Function.update_self .., ?_⟩
        obtain rfl | hedc := hedc
        · exact Function.update_self ..
        · rw [Function.update_apply, hedc, ite_self]
      apply Leads.mono (link_moves hswitched).command
      intro _ later hlater
      obtain ⟨made, heffect, rfl⟩ := hlater rfl
      obtain ⟨-, rfl⟩ := hmade made heffect
      exact ⟨_, _, rfl, Function.update_self .., fun other hother ↦
        Function.update_of_ne hother ..⟩
  | false =>
      apply Leads.bind (leadsFrom_test (.pathExists path))
      rintro reply _ ⟨hexists, rfl⟩
      apply Leads.mono leadsFrom_require
      rintro _ _ ⟨hrequired, rfl⟩
      refine ⟨last, links, rfl, ?_, fun _ _ ↦ rfl⟩
      rw [hexists] at hrequired
      cases hlink : links path with
      | absent => rfl
      | link text =>
          simp [FileSystem.holds, Point.files, Point.switching, hlink] at hreply
      | other versionEdc =>
          simp [FileSystem.holds, Point.files, Point.switching, hlink] at hrequired

theorem leadsFrom_updateSymbolicLink :
    (updateSymbolicLink (inputs.target fs)).LeadsFrom inputs fs
      (.switching inputs none fs.link) fun _ _ ↦ True := by
  apply leadsTo_log.next
  intro _
  apply Leads.bind (leadsFrom_removeLink rfl (.inl rfl))
  rintro _ _ ⟨last, unlinked, rfl, hedc, hother⟩
  apply Leads.bind (leadsFrom_removeLink (hother .senscord nofun) (.inr hedc))
  rintro _ _ ⟨last, removed, rfl, hsenscord, hother⟩
  have hedc : removed .edc = .absent := (hother .edc nofun).trans hedc
  have hlnEdc : ∀ made,
      LinkCommand.effect (.ln (inputs.target fs) .edc) removed = some made →
        SwitchedBy (inputs.target fs) fs.link made (.ln (inputs.target fs) .edc) := by
    intro made hmade
    simp only [LinkCommand.effect, hedc, Option.some.injEq] at hmade
    subst hmade
    exact ⟨Function.update_self .., hsenscord⟩
  apply Leads.bind (link_moves hlnEdc).orExit
  intro _ later hlater
  obtain ⟨made, hmade, rfl⟩ := hlater rfl
  obtain ⟨htarget, habsent⟩ := hlnEdc made hmade
  apply leadsTo_requireTest.next
  intro _
  have hlnSenscord : ∀ switched,
      LinkCommand.effect (.ln (senscordTarget (inputs.target fs)) .senscord) made =
          some switched →
        SwitchedBy (inputs.target fs) fs.link switched
          (.ln (senscordTarget (inputs.target fs)) .senscord) := by
    intro switched hswitched
    simp only [LinkCommand.effect, habsent, Option.some.injEq] at hswitched
    subst hswitched
    exact ⟨htarget, Function.update_self ..⟩
  apply Leads.bind (link_moves hlnSenscord).orExit
  intro _ _ _
  refine leadsTo_log.next fun _ ↦ leadsTo_log.next fun _ ↦ ?_
  exact Leads.mono leadsTo_log fun _ _ _ ↦ trivial

theorem leadsTo_grepCurrentVersion :
    Script.LeadsTo inputs fs (.issue .grepCurrentVersion .done) point point := by
  apply leads_issue
  intro state hstate outcome
  cases outcome with
  | fails left => exact ⟨point, hstate⟩
  | succeeds =>
      rcases hversion : state.fs.currentVersionFile with _ | version | _
      · simpa only [step, hversion] using ⟨point, hstate⟩
      · simpa only [step, hversion] using ⟨point, rfl, hstate⟩
      · simpa only [step, hversion] using ⟨point, hstate⟩

theorem leadsTo_isAlreadyLatest :
    (isAlreadyLatest inputs).LeadsTo inputs fs point point := by
  have hlog {reply : Bool} :
      Script.LeadsTo inputs fs (log >>= fun _ ↦ .done reply) point point :=
    leadsTo_log.next fun _ ↦ leads_done rfl
  rw [isAlreadyLatest]
  split
  · exact hlog
  · apply Leads.bind (leadsFrom_test .isCurrentVersionFile)
    rintro reply later ⟨-, rfl⟩
    cases reply with
    | false => exact hlog
    | true => exact leadsTo_grepCurrentVersion.next fun _ ↦ hlog

theorem leadsFrom_deploy :
    (deploy inputs).LeadsFrom inputs fs (.start inputs fs) fun _ _ ↦ True := by
  apply Leads.bind leadsFrom_detectCurrentDeployment
  rintro _ _ ⟨rfl, rfl⟩
  refine leadsTo_elsewhere.next fun _ ↦ leadsTo_log.next fun _ ↦ ?_
  refine leadsTo_log.next fun _ ↦ leadsTo_log.next fun _ ↦ ?_
  refine leadsTo_createDeploymentStructure.next fun _ ↦ ?_
  refine leadsTo_installCorePackages.next fun _ ↦ leadsTo_installSensorPackage.next fun _ ↦ ?_
  refine leadsTo_validateInstallation.next fun _ ↦ ?_
  apply Leads.bind leadsFrom_updateSymbolicLink
  intro _ _ _
  refine leadsTo_log.next fun _ ↦ leadsTo_log.next fun _ ↦ ?_
  exact Leads.mono leadsTo_log fun _ _ _ ↦ trivial

theorem leadsFrom_performUpdate :
    (performUpdate inputs).LeadsFrom inputs fs (.start inputs fs) fun _ _ ↦ True := by
  refine leadsTo_log.next fun _ ↦ leadsTo_elsewhere.next fun _ ↦ leadsTo_log.next fun _ ↦ ?_
  refine leadsTo_elsewhere.next fun _ ↦ leadsTo_elsewhere.next fun _ ↦ ?_
  apply leadsTo_elsewhere.next
  intro _
  apply Leads.bind leadsFrom_require
  rintro _ _ ⟨-, rfl⟩
  refine leadsTo_log.next fun _ ↦ leadsTo_isAlreadyLatest.next fun latest ↦ ?_
  cases latest with
  | true => exact leadsTo_log.next fun _ ↦ leads_done trivial
  | false => exact leadsFrom_deploy

/-- However a run ends, it is at one of its points. -/
theorem reached_runUpdate (inputs : UpdateInputs) (outcomes : List Outcome) (fs : FileSystem) :
    ∃ point, Reached inputs fs point (runUpdate inputs outcomes fs).2 :=
  leadsFrom_performUpdate.run reached_start outcomes

end Functions

end EdgeDeviceCore.Ota
