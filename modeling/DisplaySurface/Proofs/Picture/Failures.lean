import DisplaySurface.Proofs.Picture.Redrawing

/-!
Calls of a renderer that come back with an error. Each of them is refused before anything is changed, so a
history without them is the history of the calls that are left: with the same answers, the same frames and
the same store in the end.
-/

namespace DisplaySurface

def Painted.isRefused : Painted → Bool
  | .refused _ => true
  | .done | .crashed _ => false

structure PaintRecord where
  call : PaintCall
  result : Painted
  frame : Snapshot

namespace Painter

def history (p : Painter) : List PaintCall → List PaintRecord
  | [] => []
  | c :: calls => ⟨c, (p.call c).1, (p.call c).2.lastFrame⟩ :: (p.call c).2.history calls

/-- The part of the history that is left when the calls that were refused are deleted. -/
def kept (p : Painter) (calls : List PaintCall) : List PaintRecord :=
  (p.history calls).filter fun r => !r.result.isRefused

variable {p : Painter}

theorem call_of_refused (stocked : p.Stocked) (c : PaintCall)
    (refused : (p.call c).1.isRefused = true) : (p.call c).2 = p := by
  cases c with
  | start shape =>
    rcases start_cases shape p with done | ⟨e, unchanged⟩
    · simp [call, done, Painted.isRefused] at refused
    · rw [call, unchanged]
  | compose target layers =>
    rcases compose_cases stocked target layers with
      ⟨e, unchanged⟩ | crashed | ⟨canvas, frame, _, _, done⟩
    · rw [call, unchanged]
    · simp [call, crashed, Painted.isRefused] at refused
    · simp [call, done, Painted.isRefused] at refused

theorem kept_of_refused (stocked : p.Stocked) {c : PaintCall} (refused : (p.call c).1.isRefused = true)
    (calls : List PaintCall) : p.kept (c :: calls) = p.kept calls := by
  rw [kept, history, List.filter_cons_of_neg (by simp [refused]), call_of_refused stocked c refused, kept]

theorem kept_of_accepted {c : PaintCall} (accepted : (p.call c).1.isRefused = false)
    (calls : List PaintCall) :
    p.kept (c :: calls) =
      ⟨c, (p.call c).1, (p.call c).2.lastFrame⟩ :: (p.call c).2.kept calls := by
  rw [kept, history, List.filter_cons_of_pos (by simp [accepted]), kept]

/-- The calls that are left make the history that is left, and lead to the same state. -/
theorem history_kept (stocked : p.Stocked) (calls : List PaintCall) :
    p.history ((p.kept calls).map (·.call)) = p.kept calls ∧
      series.run p ((p.kept calls).map (·.call)) = series.run p calls := by
  induction calls generalizing p with
  | nil => exact ⟨rfl, rfl⟩
  | cons c calls ih =>
    cases refused : (p.call c).1.isRefused with
    | true =>
      have same : series.next p c = p := call_of_refused stocked c refused
      rw [kept_of_refused stocked refused, System.run_cons, same]
      exact ih stocked
    | false =>
      obtain ⟨history', run'⟩ := ih (call_keeps stocked c).1
      rw [kept_of_accepted refused, List.map_cons, history, history', System.run_cons, System.run_cons]
      exact ⟨rfl, run'⟩

/-- Deleting all calls that were refused changes neither the answer to a call that is left nor the frame
after it, nor what the renderer has in the end. That is its store and whether it was set up too: both are
after a refused call what they were before. It holds also where calls crashed in between. -/
theorem refused_calls_leave_no_trace (clear : Rgba) (calls : List PaintCall) :
    let p : Painter := { clearColor := clear }
    p.history ((p.kept calls).map (·.call)) = p.kept calls ∧
      series.run p ((p.kept calls).map (·.call)) = series.run p calls ∧
      ∀ c, ((series.run p calls).call c).1.isRefused = true →
        ((series.run p calls).call c).2 = series.run p calls := by
  intro p
  obtain ⟨same, state⟩ := history_kept (stocked_new clear) calls
  exact ⟨same, state, call_of_refused (run_keeps (stocked_new clear) calls).1⟩

end Painter

end DisplaySurface
