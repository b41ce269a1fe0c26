import Mathlib

/-!
# Error numbers

The C library fixes the number behind each `errno` name, and the numbers differ between the
platforms of the agent. The sources only ever compare and return the names, so the development
is parametric in a numbering that keeps the names apart.
-/

namespace EdgeDeviceCore.Platform

/-- The `errno` names that the sources use. -/
inductive ErrnoName where
  | EPERM | ENOENT | EIO | E2BIG | ENOMEM | EINVAL
  | EPROTO | ELOOP | ECONNABORTED | EHOSTUNREACH | ENOTSUP
deriving DecidableEq, Repr

/-- A numbering of the `errno` names, as `errno.h` promises it: positive and without clashes. -/
class Errno where
  value : ErrnoName → ℤ
  value_pos : ∀ name, 0 < value name
  value_injective : Function.Injective value

namespace Errno

/-- The numbering of Linux, the platform of the Raspberry Pi build. -/
@[reducible]
def linux : Errno where
  value
    | .EPERM => 1
    | .ENOENT => 2
    | ErrnoName.EIO => 5
    | .E2BIG => 7
    | .ENOMEM => 12
    | .EINVAL => 22
    | .EPROTO => 71
    | .ELOOP => 40
    | .ECONNABORTED => 103
    | .EHOSTUNREACH => 113
    | .ENOTSUP => 95
  value_pos name := by cases name <;> decide
  value_injective left right h := by
    cases left <;> cases right <;> first | rfl | exact absurd h (by decide)

variable [Errno]

@[simp]
theorem value_inj {left right : ErrnoName} : value left = value right ↔ left = right :=
  value_injective.eq_iff

@[simp]
theorem neg_value_lt_zero (name : ErrnoName) : -value name < 0 :=
  neg_lt_zero.mpr (value_pos name)

@[simp]
theorem neg_value_ne_zero (name : ErrnoName) : -value name ≠ 0 :=
  (neg_value_lt_zero name).ne

end Errno

end EdgeDeviceCore.Platform
