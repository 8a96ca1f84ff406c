import DisplaySurface.Picture.Layer
import Mathlib

/-!
Which layer is seen at a point. A list in drawing order is known by what it has at each height, so the
last of its layers at a point is the highest there and, of equal ones, the one that came last in the list
that was sorted.
-/

namespace DisplaySurface.Layer

/-- A sorted list is known by its layers of each order. -/
theorem sorted_ext {as bs : List Layer} (left : as.Pairwise (·.zOrder ≤ ·.zOrder))
    (right : bs.Pairwise (·.zOrder ≤ ·.zOrder))
    (levels : ∀ z : Int, as.filter (·.zOrder = z) = bs.filter (·.zOrder = z)) : as = bs := by
  have mem {cs ds : List Layer} {k : Layer}
      (same : cs.filter (·.zOrder = k.zOrder) = ds.filter (·.zOrder = k.zOrder)) (hk : k ∈ cs) :
      k ∈ ds := by
    have here : k ∈ cs.filter (·.zOrder = k.zOrder) := List.mem_filter.mpr ⟨hk, by simp⟩
    exact List.mem_of_mem_filter (same ▸ here)
  induction as generalizing bs with
  | nil =>
    cases bs with
    | nil => rfl
    | cons b bs => exact absurd (mem (levels b.zOrder).symm List.mem_cons_self) List.not_mem_nil
  | cons a as ih =>
    cases bs with
    | nil => exact absurd (mem (levels a.zOrder) List.mem_cons_self) List.not_mem_nil
    | cons b bs =>
      obtain ⟨lowest, left⟩ := List.pairwise_cons.mp left
      obtain ⟨lowest', right'⟩ := List.pairwise_cons.mp right
      -- Both heads are lowest in either list, so they are of one order and lead its layers.
      have level : a.zOrder = b.zOrder := by
        have below : b.zOrder ≤ a.zOrder := by
          rcases List.mem_cons.mp (mem (levels a.zOrder) List.mem_cons_self) with rfl | here
          · exact Int.le_refl _
          · exact lowest' a here
        have above : a.zOrder ≤ b.zOrder := by
          rcases List.mem_cons.mp (mem (levels b.zOrder).symm List.mem_cons_self) with rfl | here
          · exact Int.le_refl _
          · exact lowest b here
        exact Int.le_antisymm above below
      have first : a = b := by
        have heads := levels a.zOrder
        simp only [List.filter_cons, level, decide_true, if_true] at heads
        exact (List.cons.inj heads).1
      subst first
      refine congrArg (a :: ·) (ih left right' fun z => ?_)
      have rest := levels z
      by_cases here : a.zOrder = z
      · simp only [List.filter_cons, here, decide_true, if_true] at rest
        exact (List.cons.inj rest).2
      · simpa only [List.filter_cons, here, decide_false, Bool.false_eq_true, if_false] using rest

/-- The same layers, where those of one order stand to each other as before. -/
def Rearranged (layers layers' : List Layer) : Prop :=
  ∀ z : Int, layers'.filter (·.zOrder = z) = layers.filter (·.zOrder = z)

theorem Rearranged.inDrawingOrder_eq {layers layers' : List Layer} (h : Rearranged layers layers') :
    inDrawingOrder layers' = inDrawingOrder layers := by
  refine sorted_ext (inDrawingOrder_sorted layers') (inDrawingOrder_sorted layers) fun z => ?_
  rw [inDrawingOrder_stable, inDrawingOrder_stable, h z]

theorem rearranged_of_perm {layers layers' : List Layer} (perm : layers'.Perm layers)
    (distinct : (layers.map (·.zOrder)).Nodup) : Rearranged layers layers' := by
  have drawn : (inDrawingOrder layers').Perm (inDrawingOrder layers) :=
    (inDrawingOrder_perm layers').trans (perm.trans (inDrawingOrder_perm layers).symm)
  have same : inDrawingOrder layers' = inDrawingOrder layers := by
    refine drawn.eq_of_pairwise ?_ (inDrawingOrder_sorted layers') (inDrawingOrder_sorted layers)
    intro a b left right below above
    have left := (inDrawingOrder_perm layers).mem_iff.mp (drawn.mem_iff.mp left)
    have right := (inDrawingOrder_perm layers).mem_iff.mp right
    exact List.inj_on_of_nodup_map distinct left right (Int.le_antisymm below above)
  intro z
  rw [← inDrawingOrder_stable, same, inDrawingOrder_stable]

def top? (layers : List Layer) (x y : Nat) : Option Layer :=
  (layers.filter (·.area.contains x y)).getLast?

/-- The layer stands in the list, it has the point, and all others there are lower or, with the same
order, come before it. -/
def OnTop (layers : List Layer) (x y : Nat) (l : Layer) : Prop :=
  ∃ before after, layers = before ++ l :: after ∧ l.area.contains x y = true ∧
    (∀ k ∈ before, k.area.contains x y = true → k.zOrder ≤ l.zOrder) ∧
    ∀ k ∈ after, k.area.contains x y = true → k.zOrder < l.zOrder

def Shows (clear : Rgba) (layers : List Layer) (x y : Nat) (color : Rgba) : Prop :=
  (∃ l, OnTop layers x y l ∧ color = l.color) ∨
    (∀ k ∈ layers, k.area.contains x y = false) ∧ color = clear

section Point

variable {layers : List Layer} {x y : Nat} {l : Layer}

theorem top?_eq_none_iff : top? layers x y = none ↔ ∀ k ∈ layers, k.area.contains x y = false := by
  simp [top?]

theorem top?_cons (layer : Layer) (rest : List Layer) (x y : Nat) : top? (layer :: rest) x y =
    if layer.area.contains x y then some ((top? rest x y).getD layer) else top? rest x y := by
  by_cases here : layer.area.contains x y = true <;>
    simp [top?, List.getLast?_cons, here]

theorem mem_of_top? (last : top? (inDrawingOrder layers) x y = some l) :
    l ∈ layers ∧ l.area.contains x y = true := by
  obtain ⟨member, here⟩ := List.mem_filter.mp (List.mem_of_getLast? last)
  exact ⟨(inDrawingOrder_perm layers).mem_iff.mp member, here⟩

theorem le_of_top? (last : top? (inDrawingOrder layers) x y = some l) {k : Layer} (member : k ∈ layers)
    (here : k.area.contains x y = true) : k.zOrder ≤ l.zOrder := by
  have sorted := (inDrawingOrder_sorted layers).filter (·.area.contains x y)
  have found : k ∈ (inDrawingOrder layers).filter (·.area.contains x y) :=
    List.mem_filter.mpr ⟨(inDrawingOrder_perm layers).mem_iff.mpr member, here⟩
  obtain ⟨others, split⟩ := List.getLast?_eq_some_iff.mp last
  rw [split] at sorted found
  rcases List.mem_append.mp found with early | late
  · exact (List.pairwise_append.mp sorted).2.2 k early l (List.mem_singleton_self l)
  · exact (congrArg zOrder (List.mem_singleton.mp late)).le

/-- Of the layers of its order at the point, it is the last also before sorting. -/
theorem level_of_top? (last : top? (inDrawingOrder layers) x y = some l) :
    ∃ others, (layers.filter (·.zOrder = l.zOrder)).filter (·.area.contains x y) = others ++ [l] := by
  obtain ⟨others, split⟩ := List.getLast?_eq_some_iff.mp last
  refine ⟨others.filter (·.zOrder = l.zOrder), ?_⟩
  calc (layers.filter (·.zOrder = l.zOrder)).filter (·.area.contains x y)
      = ((inDrawingOrder layers).filter (·.zOrder = l.zOrder)).filter (·.area.contains x y) := by
        rw [inDrawingOrder_stable]
    _ = ((inDrawingOrder layers).filter (·.area.contains x y)).filter (·.zOrder = l.zOrder) := by
        simp only [List.filter_filter, Bool.and_comm]
    _ = others.filter (·.zOrder = l.zOrder) ++ [l] := by simp [split]

theorem top?_of_onTop (there : OnTop layers x y l) : top? (inDrawingOrder layers) x y = some l := by
  obtain ⟨before, after, rfl, here, below, above⟩ := there
  cases last : top? (inDrawingOrder (before ++ l :: after)) x y with
  | none =>
    have bare := top?_eq_none_iff.mp last l ((inDrawingOrder_perm _).mem_iff.mpr (by simp))
    simp [bare] at here
  | some m =>
    obtain ⟨member, covers⟩ := mem_of_top? last
    have lower : m.zOrder ≤ l.zOrder := by
      rcases List.mem_append.mp member with early | late
      · exact below m early covers
      · rcases List.mem_cons.mp late with rfl | late
        · exact Int.le_refl _
        · exact Int.le_of_lt (above m late covers)
    have same : m.zOrder = l.zOrder := Int.le_antisymm lower (le_of_top? last (by simp) here)
    have none : (after.filter (·.zOrder = l.zOrder)).filter (·.area.contains x y) = [] := by
      simp only [List.filter_eq_nil_iff, List.mem_filter, decide_eq_true_eq, and_imp]
      intro k late level covers
      exact absurd level (Int.ne_of_lt (above k late covers))
    obtain ⟨others, level⟩ := level_of_top? last
    simp only [List.filter_append, List.filter_cons, same, here, decide_true, if_true, none] at level
    exact congrArg some (List.cons.inj (List.append_inj' level rfl).2).1.symm

theorem onTop_of_top? (last : top? (inDrawingOrder layers) x y = some l) : OnTop layers x y l := by
  have highest {k : Layer} := le_of_top? last (k := k)
  obtain ⟨others, level⟩ := level_of_top? last
  rw [List.filter_filter] at level
  obtain ⟨front, back, rfl, _, tail⟩ := List.filter_eq_append_iff.mp level
  obtain ⟨skipped, after, rfl, _, _, none⟩ := List.filter_eq_cons_iff.mp tail
  refine ⟨front ++ skipped, after, by simp, (mem_of_top? last).2, ?_, ?_⟩
  · intro k early covers
    refine highest ?_ covers
    rcases List.mem_append.mp early with front | skipped <;> simp [*]
  · intro k late covers
    have apart : k.zOrder ≠ l.zOrder := by
      simp only [List.filter_eq_nil_iff, Bool.and_eq_true, decide_eq_true_eq, not_and] at none
      exact none k late covers
    exact lt_of_le_of_ne (highest (by simp [late]) covers) apart

theorem onTop_iff : OnTop layers x y l ↔ top? (inDrawingOrder layers) x y = some l :=
  ⟨top?_of_onTop, onTop_of_top?⟩

/-- Every point has one colour: that of the last layer drawn there, or that of the ground. -/
theorem shows_iff {clear color : Rgba} : Shows clear layers x y color ↔
    color = ((top? (inDrawingOrder layers) x y).map Layer.color).getD clear := by
  simp only [Shows, onTop_iff]
  cases last : top? (inDrawingOrder layers) x y with
  | none =>
    have bare : ∀ k ∈ layers, k.area.contains x y = false := fun k member =>
      top?_eq_none_iff.mp last k ((inDrawingOrder_perm layers).mem_iff.mpr member)
    simpa using fun _ => bare
  | some l =>
    obtain ⟨member, here⟩ := mem_of_top? last
    have covered : ¬ ∀ k ∈ layers, k.area.contains x y = false := by
      intro bare
      simp [bare l member] at here
    simp [covered]

theorem Rearranged.shows_iff {layers' : List Layer} (h : Rearranged layers layers') {clear color : Rgba} :
    Shows clear layers' x y color ↔ Shows clear layers x y color := by
  rw [Layer.shows_iff, Layer.shows_iff, h.inDrawingOrder_eq]

end Point

end DisplaySurface.Layer
