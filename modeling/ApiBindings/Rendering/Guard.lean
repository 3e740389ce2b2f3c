set_option autoImplicit false

namespace ApiBindings

variable {κ : Type} [DecidableEq κ]

structure Guard (κ : Type) where
  active : List (κ × String) := []

structure Expansion (κ : Type) where
  key : κ
  owned : Bool

namespace Guard

def inProgress (guard : Guard κ) (key : κ) : Option String := guard.active.lookup key

def isActive (guard : Guard κ) (key : κ) : Bool := (guard.inProgress key).isSome

def enter (guard : Guard κ) (key : κ) (name : String) : Guard κ :=
  if guard.isActive key then guard else ⟨(key, name) :: guard.active⟩

def expansion (guard : Guard κ) (key : κ) : Expansion κ := ⟨key, !guard.isActive key⟩

def leave (guard : Guard κ) (expansion : Expansion κ) : Guard κ :=
  if expansion.owned then ⟨guard.active.filter (·.1 ≠ expansion.key)⟩ else guard

def size (guard : Guard κ) : Nat := guard.active.length

def isEmpty (guard : Guard κ) : Bool := guard.active.isEmpty

end Guard

end ApiBindings
