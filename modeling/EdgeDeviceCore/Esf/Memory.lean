import EdgeDeviceCore.Platform.CString
import EdgeDeviceCore.Semantics.Resources

/-!
# Memory, directories and descriptors

What the functions of the sources acquire and release. Whether an allocation succeeds is an answer
to the call.
-/

open EdgeDeviceCore.Platform
open EdgeDeviceCore.Semantics.Resources

namespace EdgeDeviceCore.Esf.Memory

inductive Resource where
  | block | directory | descriptor
  deriving DecidableEq, Repr

abbrev Pointer := Option (Handle Resource)

/-- `free`. -/
def free : Pointer → Program Resource Unit := releaseAny

theorem triple_free {α : Type} {own : Multiset (Handle Resource)} {block : Handle Resource}
    {next : Unit → Program Resource α} {post : α → Multiset (Handle Resource) → Prop}
    (h : Triple own (next ()) post) :
    Triple (own + {block}) (free (some block) >>= next) post :=
  Triple.release_bind h

/-- A string of which the memory belongs to a pointer. -/
structure OwnedString where
  pointer : Handle Resource
  text : CString

/-- `strdup`. -/
def strdup (text : CString) (succeeds : Bool) : Program Resource (Option OwnedString) := do
  let pointer ← tryAcquire .block succeeds
  pure (pointer.map fun block ↦ ⟨block, text⟩)

theorem triple_strdup {text : CString} {succeeds : Bool} {own : Multiset (Handle Resource)}
    {α : Type} {next : Option OwnedString → Program Resource α}
    {post : α → Multiset (Handle Resource) → Prop}
    (hnone : succeeds = false → Triple own (next none) post)
    (hsome : succeeds = true → ∀ block, Triple (own + {block}) (next (some ⟨block, text⟩)) post) :
    Triple own (strdup text succeeds >>= next) post := by
  rw [strdup, bind_assoc]
  apply Triple.tryAcquire_bind
  intro pointer hpointer
  rw [pure_bind]
  cases pointer with
  | none => exact (add_zero own).symm ▸ hnone hpointer.symm
  | some block => exact hsome hpointer.symm block

end EdgeDeviceCore.Esf.Memory
