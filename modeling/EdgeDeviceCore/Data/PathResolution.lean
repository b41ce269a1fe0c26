import Mathlib

/-!
# Path resolution

A tree of files is a function of physical paths, the lists of names from the root. A route is
followed component by component from a directory; a symbolic link on the way is replaced by its own
route, as often as a budget allows. Many routes lead to one file.
-/

namespace EdgeDeviceCore.Data.PathResolution

inductive Component (Name : Type*) where
  /-- `.`, or nothing between two slashes. -/
  | same
  /-- `..`. -/
  | parent
  | child (name : Name)
deriving DecidableEq, Repr

structure Route (Name : Type*) where
  absolute : Bool
  components : List (Component Name)
deriving DecidableEq, Repr

inductive File (Name : Type*) where
  | directory
  | link (route : Route Name)
  | other
deriving DecidableEq, Repr

abbrev FileTree (Name : Type*) := List Name → Option (File Name)

variable {Name : Type*}

/-- Where a route starts that is found in a directory. -/
def Route.start (route : Route Name) (current : List Name) : List Name :=
  if route.absolute then [] else current

/-- Follow components up to the first link and go on from there in another way. -/
def walk (tree : FileTree Name)
    (follow : List Name → List (Component Name) → Option (List Name)) :
    List Name → List (Component Name) → Option (List Name)
  | current, [] => some current
  | current, .same :: rest => walk tree follow current rest
  | current, .parent :: rest => walk tree follow current.dropLast rest
  | current, .child name :: rest =>
      match tree (current ++ [name]) with
      | some .directory => walk tree follow (current ++ [name]) rest
      | some (.link route) => follow (route.start current) (route.components ++ rest)
      | some .other => if rest = [] then some (current ++ [name]) else none
      | none => none

/-- Follow components from a directory over no more than a number of links. -/
def resolve (tree : FileTree Name) : ℕ → List Name → List (Component Name) → Option (List Name)
  | 0 => walk tree fun _ _ ↦ none
  | links + 1 => walk tree (resolve tree links)

section Steps

variable {tree : FileTree Name} {links : ℕ} {current : List Name} {name : Name}
  {rest : List (Component Name)}

@[simp]
theorem resolve_nil : resolve tree links current [] = some current := by
  cases links <;> rfl

@[simp]
theorem resolve_same :
    resolve tree links current (.same :: rest) = resolve tree links current rest := by
  cases links <;> rfl

@[simp]
theorem resolve_parent :
    resolve tree links current (.parent :: rest) = resolve tree links current.dropLast rest := by
  cases links <;> rfl

theorem resolve_directory (h : tree (current ++ [name]) = some .directory) :
    resolve tree links current (.child name :: rest) =
      resolve tree links (current ++ [name]) rest := by
  cases links <;> simp only [resolve, walk, h]

theorem resolve_link {route : Route Name} (h : tree (current ++ [name]) = some (.link route)) :
    resolve tree (links + 1) current (.child name :: rest) =
      resolve tree links (route.start current) (route.components ++ rest) := by
  simp only [resolve, walk, h]

theorem walk_mono {follow follow' : List Name → List (Component Name) → Option (List Name)}
    (h : ∀ current components place, follow current components = some place →
      follow' current components = some place)
    {components : List (Component Name)} {place : List Name}
    (hwalk : walk tree follow current components = some place) :
    walk tree follow' current components = some place := by
  induction components generalizing current with
  | nil => exact hwalk
  | cons component rest ih =>
      cases component with
      | same => exact ih hwalk
      | parent => exact ih hwalk
      | child name =>
          rw [walk] at hwalk ⊢
          split at hwalk
          · exact ih hwalk
          · exact h _ _ _ hwalk
          · exact hwalk
          · exact hwalk

/-- A larger budget leads to the same file. -/
theorem resolve_succ {place : List Name} {components : List (Component Name)}
    (h : resolve tree links current components = some place) :
    resolve tree (links + 1) current components = some place := by
  induction links generalizing current components place with
  | zero => exact walk_mono (fun _ _ _ hnone ↦ absurd hnone (Option.some_ne_none _).symm) h
  | succ links ih => exact walk_mono (fun _ _ _ hfollow ↦ ih hfollow) h

end Steps

end EdgeDeviceCore.Data.PathResolution
