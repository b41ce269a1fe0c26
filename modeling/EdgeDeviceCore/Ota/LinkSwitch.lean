import EdgeDeviceCore.Ota.Progress

/-!
# The switch of the two links

`update_symbolic_link` removes both links and then makes both again, so a run that stops in
between leaves neither the old pair nor the new one. Whether it does is told by the last command
on the links that succeeded.
-/

open EdgeDeviceCore.Semantics

namespace EdgeDeviceCore.Ota

/-- What both links are after the switch to a target. -/
def switchedLinks (target : Path) : LinkPath → LinkNode
  | .edc => .link target
  | .senscord => .link (senscordTarget target)

/-- What they are when the second has not been made yet. -/
def halfSwitchedLinks (target : Path) : LinkPath → LinkNode
  | .edc => .link target
  | .senscord => .absent

/-- The links end as they were or both switched, and as they were if the run ends in an error. -/
def AllOrNothing (inputs : UpdateInputs) (fs : FileSystem)
    (ended : StoppedRun.Ending Unit × ScriptState) : Prop :=
  (ended.2.fs.link = fs.link ∨ ended.2.fs.link = switchedLinks (inputs.target fs)) ∧
    (ended.1 = .failed → ended.2.fs.link = fs.link)

/-- No command on the links has succeeded, or the second link is made and the run is not failed.
What the switch has made so far may also be what there was, if `readlink` failed and the target is
the current deployment. -/
def StopsClear (inputs : UpdateInputs) (fs : FileSystem)
    (ended : StoppedRun.Ending Unit × ScriptState) : Prop :=
  match lastLink ended.2.history with
  | none => True
  | some (.rm _) => False
  | some (.ln _ .edc) => fs.link = halfSwitchedLinks (inputs.target fs)
  | some (.ln _ .senscord) =>
      ended.1 = .failed → fs.link = switchedLinks (inputs.target fs)

section Switched

variable {target : Path} {initial links : LinkPath → LinkNode}

theorem links_eq {left right : LinkPath → LinkNode} (hedc : left .edc = right .edc)
    (hsenscord : left .senscord = right .senscord) : left = right := by
  funext path
  cases path with
  | edc => exact hedc
  | senscord => exact hsenscord

/-- After a removal the links are neither as they were nor switched. -/
theorem SwitchedBy.rm_ne {path : LinkPath} (h : SwitchedBy target initial links (.rm path)) :
    links ≠ initial ∧ links ≠ switchedLinks target := by
  obtain ⟨⟨text, htext⟩, habsent, hedc⟩ := h
  constructor
  · rintro rfl
    exact nomatch habsent.symm.trans htext
  · rintro rfl
    exact nomatch hedc

theorem SwitchedBy.ln_edc_eq {text : Path} (h : SwitchedBy target initial links (.ln text .edc)) :
    links = halfSwitchedLinks target :=
  links_eq h.1 h.2

theorem SwitchedBy.ln_senscord_eq {text : Path}
    (h : SwitchedBy target initial links (.ln text .senscord)) : links = switchedLinks target :=
  links_eq h.1 h.2

theorem halfSwitchedLinks_ne : halfSwitchedLinks target ≠ switchedLinks target :=
  fun h ↦ nomatch congrFun h .senscord

end Switched

/-- A run switches all or nothing exactly where it stops clear of the switch. -/
theorem allOrNothing_iff (inputs : UpdateInputs) (outcomes : List Outcome) (fs : FileSystem) :
    AllOrNothing inputs fs (runUpdate inputs outcomes fs) ↔
      StopsClear inputs fs (runUpdate inputs outcomes fs) := by
  obtain ⟨point, hpoint⟩ := reached_runUpdate inputs outcomes fs
  have hlinks : (runUpdate inputs outcomes fs).2.fs.link = point.links := by
    rw [hpoint.files]
    rfl
  rw [AllOrNothing, StopsClear, hpoint.last, hlinks]
  rcases hlast : point.last with _ | path | ⟨text, _ | _⟩
  · have hsame := hpoint.sound.unlinked hlast
    exact iff_of_true ⟨.inl hsame, fun _ ↦ hsame⟩ trivial
  · obtain ⟨hinitial, hswitched⟩ := (hpoint.sound.switched _ hlast).rm_ne
    exact iff_of_false (fun h ↦ h.1.elim hinitial hswitched) id
  · rw [(hpoint.sound.switched _ hlast).ln_edc_eq]
    constructor
    · rintro ⟨hsame | hswitched, -⟩
      · exact hsame.symm
      · exact absurd hswitched halfSwitchedLinks_ne
    · intro hsame
      exact ⟨.inl hsame.symm, fun _ ↦ hsame.symm⟩
  · rw [(hpoint.sound.switched _ hlast).ln_senscord_eq]
    constructor
    · rintro ⟨-, hfailed⟩ hended
      exact (hfailed hended).symm
    · intro hclear
      exact ⟨.inr rfl, fun hended ↦ (hclear hended).symm⟩

/-! ## A device with the sensor package at `/opt/senscord` -/

/-- The first deployment is current, and `/opt/senscord` is a directory. -/
def installedSensor : FileSystem where
  link := fun
    | .edc => .link edcDirA
    | .senscord => .other none
  node := Function.update (fun _ ↦ .absent) edcDirA (.directory (.complete "1.0.0"))

/-- All commands succeed, and the script leaves with an error after it has removed `/opt/edc`. -/
theorem not_allOrNothing_installedSensor :
    ¬ AllOrNothing updateToTwo installedSensor
      (runUpdate updateToTwo (List.replicate 80 .succeeds) installedSensor) := by
  have hended : (runUpdate updateToTwo (List.replicate 80 .succeeds) installedSensor).1 =
      .failed := by decide
  have hedc : (runUpdate updateToTwo (List.replicate 80 .succeeds) installedSensor).2.fs.link
      .edc = .absent := by decide
  rintro ⟨-, hfailed⟩
  rw [hfailed hended] at hedc
  exact nomatch hedc

end EdgeDeviceCore.Ota
