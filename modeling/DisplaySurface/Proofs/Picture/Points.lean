import DisplaySurface.Picture.Canvas
import Mathlib

/-!
Points of a frame. The colour of a point is four bytes of the frame, and a point outside the frame, or
without its bytes, has none. Reading it counts in words of 64 bits, so that it crashes exactly at points
whose bytes would end beyond all words. No frame that fits into the memory has such bytes.
-/

namespace DisplaySurface

theorem colorAt?_eq (bytes : Array UInt8) (offset : Nat) :
    colorAt? bytes offset = match (bytes.toList.drop offset).take 4 with
      | [r, g, b, a] => some ⟨r, g, b, a⟩
      | _ => none := by
  have here (i : Nat) : bytes[offset + i]? = (bytes.toList.drop offset)[i]? := by
    rw [List.getElem?_drop, Array.getElem?_toList]
  have first : bytes[offset]? = (bytes.toList.drop offset)[0]? := here 0
  rw [colorAt?, first, here 1, here 2, here 3]
  rcases bytes.toList.drop offset with _ | ⟨r, _ | ⟨g, _ | ⟨b, _ | ⟨a, rest⟩⟩⟩⟩ <;> rfl

namespace Snapshot

/-- Where the bytes of a point begin, in numbers without bound. -/
def start (s : Snapshot) (x y : UInt32) : Nat :=
  4 * (y.toNat * s.width.toNat + x.toNat)

def color? (s : Snapshot) (x y : UInt32) : Option Rgba :=
  if x < s.width ∧ y < s.height then
    match (s.bytes.toList.drop (s.start x y)).take 4 with
    | [r, g, b, a] => some ⟨r, g, b, a⟩
    | _ => none
  else none

/-- A point of the frame whose bytes would end beyond all words of 64 bits. -/
def Uncountable (s : Snapshot) (x y : UInt32) : Prop :=
  x < s.width ∧ y < s.height ∧ addressSpace ≤ s.start x y + 4

variable {s : Snapshot} {x y : UInt32}

theorem outside_iff : s.width ≤ x ∨ s.height ≤ y ↔ ¬ (x < s.width ∧ y < s.height) := by
  simp only [not_and_or, UInt32.not_lt]

theorem offset_eq (s : Snapshot) (x y : UInt32) : s.offset x y = s.start x y :=
  Nat.mul_comm _ _

theorem pixel_of_countable (h : ¬ s.Uncountable x y) : s.pixel x y = .ok (s.color? x y) := by
  by_cases within : x < s.width ∧ y < s.height
  · have room : s.start x y + 4 < addressSpace := by
      by_contra far
      exact h ⟨within.1, within.2, Nat.not_lt.mp far⟩
    rw [pixel, if_neg (outside_iff.not.mpr (not_not.mpr within)), offset_eq, if_neg (by omega),
      if_neg (by omega), colorAt?_eq, color?, if_pos within]
  · rw [pixel, if_pos (outside_iff.mpr within), color?, if_neg within]

theorem pixel_of_uncountable (h : s.Uncountable x y) :
    s.pixel x y =
      .error (if addressSpace ≤ s.start x y then .multiplyOverflow else .addOverflow) := by
  obtain ⟨left, above, far⟩ := h
  rw [pixel, if_neg (outside_iff.not.mpr (not_not.mpr ⟨left, above⟩)), offset_eq]
  by_cases product : addressSpace ≤ s.start x y
  · rw [if_pos product, if_pos product]
  · rw [if_neg product, if_pos far, if_neg product]

/-- Bytes that end beyond all words are beyond the end of every row that memory can hold. -/
theorem color?_of_uncountable (h : s.Uncountable x y) (fits : s.bytes.size ≤ Canvas.largestStore) :
    s.color? x y = none := by
  have far := h.2.2
  have short : Canvas.largestStore + 4 < addressSpace := by decide
  have none : s.bytes.toList.drop (s.start x y) = [] := by
    rw [List.drop_eq_nil_iff, Array.length_toList]
    omega
  rw [color?, none]
  split <;> rfl

/-- Reading a point gives its four bytes, or nothing where there are none, exactly unless the bytes would
end beyond all words. Then it crashes, and what it keeps back is that a frame in memory has no such bytes. -/
theorem pixel_exact_iff (s : Snapshot) (x y : UInt32) :
    (s.pixel x y = .ok (s.color? x y) ↔ ¬ s.Uncountable x y) ∧
      (s.Uncountable x y →
        s.pixel x y =
          .error (if addressSpace ≤ s.start x y then .multiplyOverflow else .addOverflow) ∧
        (s.bytes.size ≤ Canvas.largestStore → s.color? x y = none)) := by
  refine ⟨⟨fun exact far => ?_, pixel_of_countable⟩, fun far => ?_⟩
  · rw [pixel_of_uncountable far] at exact
    cases exact
  · exact ⟨pixel_of_uncountable far, color?_of_uncountable far⟩

/-- A point of an empty frame that is said to be very wide and high. -/
theorem pixel_crashes_beyond_words :
    let s : Snapshot := { width := 2147483648, height := 2147483649 }
    s.color? 0 2147483648 = none ∧ s.pixel 0 2147483648 = .error .multiplyOverflow := by
  decide

end Snapshot

end DisplaySurface
