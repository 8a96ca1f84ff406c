/-!
Layers: solid rectangles with a place in the drawing order.
-/

namespace DisplaySurface

structure Rgba where
  r : UInt8
  g : UInt8
  b : UInt8
  a : UInt8
  deriving DecidableEq, Repr

structure Rect where
  x : UInt32
  y : UInt32
  width : UInt32
  height : UInt32
  deriving DecidableEq, Repr

namespace Rect

def right (rect : Rect) (width : Nat) : Nat :=
  min (rect.x.toNat + rect.width.toNat) width

def bottom (rect : Rect) (height : Nat) : Nat :=
  min (rect.y.toNat + rect.height.toNat) height

def contains (rect : Rect) (x y : Nat) : Bool :=
  decide (rect.x.toNat ≤ x ∧ x < rect.x.toNat + rect.width.toNat
    ∧ rect.y.toNat ≤ y ∧ y < rect.y.toNat + rect.height.toNat)

end Rect

structure Layer where
  zOrder : Int
  area : Rect
  color : Rgba
  deriving DecidableEq, Repr

/-- Ascending in `zOrder`; layers of equal order keep their places. -/
def Layer.inDrawingOrder (layers : List Layer) : List Layer :=
  layers.mergeSort fun a b => a.zOrder ≤ b.zOrder

theorem Layer.inDrawingOrder_perm (layers : List Layer) :
    (Layer.inDrawingOrder layers).Perm layers :=
  List.mergeSort_perm _ _

theorem Layer.inDrawingOrder_sorted (layers : List Layer) :
    (Layer.inDrawingOrder layers).Pairwise (·.zOrder ≤ ·.zOrder) := by
  have sorted : (Layer.inDrawingOrder layers).Pairwise
      fun a b => decide (a.zOrder ≤ b.zOrder) = true :=
    List.pairwise_mergeSort (by simpa using fun a b c => Int.le_trans)
      (by simpa using fun a b => Int.le_total _ _) layers
  simpa using sorted

theorem Layer.inDrawingOrder_stable (layers : List Layer) (z : Int) :
    (Layer.inDrawingOrder layers).filter (·.zOrder = z) = layers.filter (·.zOrder = z) := by
  have level : (layers.filter (·.zOrder = z)).Pairwise fun a b => decide (a.zOrder ≤ b.zOrder) := by
    refine List.pairwise_of_forall_mem_list fun a ha b hb => ?_
    simp only [List.mem_filter, decide_eq_true_eq] at ha hb
    simp [ha.2, hb.2]
  have kept : (layers.filter (·.zOrder = z)).Sublist (Layer.inDrawingOrder layers) :=
    List.sublist_mergeSort (by simpa using fun a b c => Int.le_trans)
      (by simpa using fun a b => Int.le_total _ _) level List.filter_sublist
  have sub := kept.filter (·.zOrder = z)
  rw [List.filter_filter] at sub
  simp only [Bool.and_self] at sub
  exact (sub.eq_of_length ((Layer.inDrawingOrder_perm layers).filter _).length_eq.symm).symm

end DisplaySurface
