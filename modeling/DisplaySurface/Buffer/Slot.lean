import DisplaySurface.Buffer.Shape
import DisplaySurface.Picture.Layer
import DisplaySurface.SessionError

/-!
The one target buffer of a session. At most one caller has it checked out. Replacing the memory behind
the buffer gives it a new handle and the next fingerprint, and revokes the checkout.
-/

namespace DisplaySurface

structure LiveBuffer where
  shape : BufferShape
  handle : Nat
  fingerprint : Nat
  deriving DecidableEq, Repr

structure Checkout where
  shape : BufferShape
  handle : Nat
  fingerprint : Nat
  layers : List Layer := []
  deriving DecidableEq, Repr

def Checkout.add (c : Checkout) (layers : List Layer) : Checkout :=
  { c with layers := c.layers ++ layers }

def Checkout.blank (c : Checkout) : Checkout :=
  { c with layers := [] }

@[simp] theorem Checkout.blank_fingerprint (c : Checkout) : c.blank.fingerprint = c.fingerprint := rfl

structure Slot where
  live : LiveBuffer
  busy : Bool := false
  nextHandle : Nat := 2
  deriving DecidableEq, Repr

namespace Slot

def new (shape : BufferShape) : Slot :=
  { live := { shape, handle := 1, fingerprint := 1 } }

def checkOut (s : Slot) : Except SessionError Checkout × Slot :=
  if s.busy then (.error .busy, s)
  else
    (.ok { shape := s.live.shape, handle := s.live.handle, fingerprint := s.live.fingerprint },
     { s with busy := true })

def validate (s : Slot) (c : Checkout) : Except SessionError Unit :=
  if c.fingerprint ≠ s.live.fingerprint then
    .error (.staleBuffer c.fingerprint s.live.fingerprint)
  else if !s.busy then .error .notCheckedOut
  else .ok ()

def checkIn (s : Slot) : Slot :=
  { s with busy := false }

def reallocate (s : Slot) (shape : BufferShape) : Slot :=
  { live := { shape, handle := s.nextHandle, fingerprint := s.live.fingerprint + 1 }
    nextHandle := s.nextHandle + 1 }

@[simp] theorem live_checkIn (s : Slot) : s.checkIn.live = s.live := rfl

theorem validate_eq_ok_iff (s : Slot) (c : Checkout) :
    s.validate c = .ok () ↔ c.fingerprint = s.live.fingerprint ∧ s.busy = true := by
  unfold validate
  split
  · simp_all
  · split <;> simp_all

theorem validate_error {s : Slot} {c : Checkout} {e : SessionError} (h : s.validate c = .error e) :
    e = .staleBuffer c.fingerprint s.live.fingerprint ∨ e = .notCheckedOut := by
  unfold validate at h
  split at h
  · cases h
    exact .inl rfl
  · split at h
    · cases h
      exact .inr rfl
    · cases h

end Slot

end DisplaySurface
