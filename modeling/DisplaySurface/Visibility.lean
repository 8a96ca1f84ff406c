/-!
What the owner of a session last asked the display to be. A session is dead once it was shut down.
-/

namespace DisplaySurface

inductive Visibility where
  | notVisible
  /-- Becomes `visible` with the next frame that is presented. -/
  | visibleOnNextFrame
  | visible
  | dead
  deriving DecidableEq, Repr

namespace Visibility

def isVisible : Visibility → Bool
  | visibleOnNextFrame | visible => true
  | notVisible | dead => false

def name : Visibility → String
  | notVisible => "NotVisible"
  | visibleOnNextFrame => "VisibleOnNextFrame"
  | visible => "Visible"
  | dead => "Dead"

def all : List Visibility := [notVisible, visibleOnNextFrame, visible, dead]

def ofName? (name : String) : Option Visibility :=
  all.find? (·.name = name)

theorem ne_dead_of_isVisible {v : Visibility} (visible : v.isVisible = true) : v ≠ dead := by
  rintro rfl
  cases visible

def promoted : Visibility → Visibility
  | visibleOnNextFrame => visible
  | v => v

end Visibility

end DisplaySurface
