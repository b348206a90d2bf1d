/-!
# Values per platform

Paths differ from one operating system to the next, so a setting that holds paths has one value
for each.
-/

namespace CodeHints

/-- The families of operating systems that path settings tell apart. -/
inductive Platform where
  | windows
  | osx
  | linux
  deriving DecidableEq, Repr

namespace Platform

/-- All platforms, in the order in which settings list them. -/
def all : List Platform := [.windows, .osx, .linux]

def name : Platform → String
  | .windows => "windows"
  | .osx => "osx"
  | .linux => "linux"

/-- The value of the variable `platform` on a platform. -/
def title : Platform → String
  | .windows => "Windows"
  | .osx => "OSX"
  | .linux => "Linux"

/-- The platform that the pipeline runs on. -/
def host : Platform := .linux

end Platform

/-- One value for each platform. -/
structure PerPlatform (α : Type) where
  windows : α
  osx : α
  linux : α
  deriving DecidableEq

namespace PerPlatform

variable {α : Type}

def const (a : α) : PerPlatform α := ⟨a, a, a⟩

def get (v : PerPlatform α) : Platform → α
  | .windows => v.windows
  | .osx => v.osx
  | .linux => v.linux

def set (v : PerPlatform α) (p : Platform) (a : α) : PerPlatform α :=
  match p with
  | .windows => { v with windows := a }
  | .osx => { v with osx := a }
  | .linux => { v with linux := a }

@[simp] theorem get_set_self (v : PerPlatform α) (p : Platform) (a : α) :
    (v.set p a).get p = a := by
  cases p <;> rfl

theorem get_set_of_ne (v : PerPlatform α) {p q : Platform} (a : α) (h : q ≠ p) :
    (v.set p a).get q = v.get q := by
  cases p <;> cases q <;> first | rfl | exact absurd rfl h

end PerPlatform

end CodeHints
