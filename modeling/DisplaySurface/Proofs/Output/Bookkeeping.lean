import DisplaySurface.Output.Headless
import DisplaySurface.System
import Mathlib

/-!
The books of a display without a screen. Beside the display stands the full log of the frames that it
accepted. What the display keeps is a function of that log: the latest frames, their number, and how often
a buffer had to be imported. A failure that was ordered is used up by the owner's frames alone.
-/

namespace DisplaySurface

inductive DisplayCall where
  | acquire (id : UInt64)
  | present (resource : UInt64) (frame : Frame)
  | release (id : UInt64)
  | failNext (n : Nat)
  | refuse

def DisplayCall.isFailNext : DisplayCall → Bool
  | .failNext _ => true
  | .acquire _ | .present _ _ | .release _ | .refuse => false

namespace HeadlessDisplay

def call (d : HeadlessDisplay) : DisplayCall → HeadlessDisplay
  | .acquire id => (d.acquire id).2
  | .present resource frame => (d.present resource frame).2
  | .release id => d.release id
  | .failNext n => d.failNext n
  | .refuse => d.refuse

def calls : System HeadlessDisplay DisplayCall where
  Enabled _ _ := True
  next := call

end HeadlessDisplay

/-- A frame that was accepted, and how often the owner had given the display back before. -/
structure Showing where
  frame : Frame
  returns : Nat

namespace Showing

def fingerprint (s : Showing) : Nat :=
  s.frame.buffer.fingerprint

/-- The frame is the first one since the display was made or given back, or it has another fingerprint
than the one before it. -/
def NeedsImport (before : List Showing) (s : Showing) : Prop :=
  (∀ b ∈ before, b.returns ≠ s.returns) ∨ ∃ b ∈ before.getLast?, b.fingerprint ≠ s.fingerprint

instance (before : List Showing) (s : Showing) : Decidable (NeedsImport before s) :=
  inferInstanceAs (Decidable (_ ∨ _))

def imports (shown : List Showing) : Nat :=
  shown.zipIdx.countP fun (s, i) => NeedsImport (shown.take i) s

theorem imports_concat (shown : List Showing) (s : Showing) :
    imports (shown ++ [s]) = imports shown + if NeedsImport shown s then 1 else 0 := by
  have before : ∀ p ∈ shown.zipIdx, (shown ++ [s]).take p.2 = shown.take p.2 := by
    rintro ⟨b, i⟩ place
    exact List.take_append_of_le_length (List.mem_zipIdx' place).1.le
  have earlier : (shown.zipIdx.countP fun (b, i) => NeedsImport ((shown ++ [s]).take i) b) =
      imports shown :=
    List.countP_congr fun p place => by simp only [before p place]
  rw [imports, List.zipIdx_append, List.countP_append, earlier]
  simp [List.countP_cons]

theorem needsImport_concat_iff {before : List Showing} {b s : Showing} (same : b.returns = s.returns) :
    NeedsImport (before ++ [b]) s ↔ b.fingerprint ≠ s.fingerprint := by
  simp [NeedsImport, same]

end Showing

/-- All frames that a display accepted, oldest first, and how often its owner gave it back. -/
structure FullLog where
  shown : List Showing := []
  returns : Nat := 0

namespace FullLog

def frames (l : FullLog) : List Frame :=
  l.shown.map (·.frame)

def noted (l : FullLog) (d : HeadlessDisplay) : DisplayCall → FullLog
  | .present resource frame =>
    match (d.present resource frame).1 with
    | .ok () => { l with shown := l.shown ++ [⟨frame, l.returns⟩] }
    | .error _ => l
  | .release id => if d.owner = some id then { l with returns := l.returns + 1 } else l
  | .acquire _ | .failNext _ | .refuse => l

end FullLog

namespace HeadlessDisplay

def logged : System (HeadlessDisplay × FullLog) DisplayCall :=
  calls.observed (fun d c l => l.noted d c) fun _ _ => True

variable {d d' : HeadlessDisplay} {l : FullLog} {resource : UInt64} {frame : Frame}

/-- What a display keeps, as a function of all that it accepted. The fingerprint that it remembers is that
of the latest frame, unless it was given back since. -/
structure Books (d : HeadlessDisplay) (l : FullLog) : Prop where
  recent : d.recent = l.frames.drop (l.frames.length - historyLength)
  presented : d.presented = l.frames.length
  imports : d.imports = Showing.imports l.shown
  past : ∀ s ∈ l.shown, s.returns ≤ l.returns
  imported : d.imported = none ∧ (∀ s ∈ l.shown, s.returns ≠ l.returns) ∨
    ∃ before s, l.shown = before ++ [s] ∧ s.returns = l.returns ∧ d.imported = some s.fingerprint

namespace Books

theorem initial : Books {} {} where
  recent := rfl
  presented := rfl
  imports := rfl
  past := by simp
  imported := by simp

theorem onward (h : Books d l) (recent : d'.recent = d.recent) (presented : d'.presented = d.presented)
    (imports : d'.imports = d.imports) (imported : d'.imported = d.imported) : Books d' l where
  recent := recent.trans h.recent
  presented := presented.trans h.presented
  imports := imports.trans h.imports
  past := h.past
  imported := imported ▸ h.imported

theorem needsImport_iff (h : Books d l) (frame : Frame) :
    Showing.NeedsImport l.shown ⟨frame, l.returns⟩ ↔ d.imported ≠ some frame.buffer.fingerprint := by
  rcases h.imported with ⟨none, first⟩ | ⟨before, s, shown, same, imported⟩
  · exact iff_of_true (.inl first) (by simp [none])
  · rw [shown, Showing.needsImport_concat_iff same, imported, Option.some_inj.ne]
    rfl

theorem recent_record (h : Books d l) (frame : Frame) : (d.record frame).recent =
    (l.frames ++ [frame]).drop (l.frames.length + 1 - historyLength) := by
  have length : d.recent.length = l.frames.length - (l.frames.length - historyLength) := by
    rw [h.recent, List.length_drop]
  have some : 0 < historyLength := by decide
  rw [List.drop_append_of_le_length (by omega)]
  by_cases full : historyLength ≤ l.frames.length
  · have oldest : l.frames.length + 1 - historyLength = l.frames.length - historyLength + 1 := by omega
    rw [oldest, ← List.drop_drop, ← h.recent]
    simp only [record, if_pos (show d.recent.length = historyLength by omega)]
  · have all : l.frames.length + 1 - historyLength = l.frames.length - historyLength := by omega
    rw [all, ← h.recent]
    simp only [record, if_neg (show d.recent.length ≠ historyLength by omega)]

theorem record (h : Books d l) (frame : Frame) :
    Books (d.record frame) { l with shown := l.shown ++ [⟨frame, l.returns⟩] } where
  recent := by
    simpa [FullLog.frames] using h.recent_record frame
  presented := by
    simp [HeadlessDisplay.record, h.presented, FullLog.frames]
  imports := by
    rw [Showing.imports_concat, ← h.imports]
    by_cases needed : d.imported = some frame.buffer.fingerprint
    · simp [HeadlessDisplay.record, needed, h.needsImport_iff]
    · simp [HeadlessDisplay.record, needed, h.needsImport_iff]
  past := by
    intro s mem
    rcases List.mem_append.mp mem with earlier | new
    · exact h.past s earlier
    · rw [List.mem_singleton.mp new]
  imported := .inr ⟨l.shown, _, rfl, rfl, rfl⟩

theorem present (h : Books d l) (resource : UInt64) (frame : Frame) :
    Books (d.call (.present resource frame)) (l.noted d (.present resource frame)) := by
  rcases present_ends resource frame d with ⟨_, ended⟩ | ⟨_, _, ended⟩ | ⟨_, _, ended⟩
  · simpa only [call, FullLog.noted, ended] using h
  · simp only [call, FullLog.noted, ended]
    exact h.onward rfl rfl rfl rfl
  · simpa only [call, FullLog.noted, ended] using h.record frame

theorem release (h : Books d l) (id : UInt64) :
    Books (d.call (.release id)) (l.noted d (.release id)) := by
  by_cases owned : d.owner = some id
  · simp only [call, HeadlessDisplay.release, FullLog.noted, if_pos owned]
    exact { h with
      past := fun s mem => Nat.le_succ_of_le (h.past s mem)
      imported := .inl ⟨rfl, fun s mem => (Nat.lt_succ_of_le (h.past s mem)).ne⟩ }
  · simp only [call, HeadlessDisplay.release, FullLog.noted, if_neg owned]
    exact h.onward rfl rfl rfl rfl

theorem acquire (h : Books d l) (id : UInt64) :
    Books (d.call (.acquire id)) (l.noted d (.acquire id)) := by
  obtain ⟨owner, changed⟩ := acquire_changes id d
  rw [call, changed]
  exact h.onward rfl rfl rfl rfl

theorem next (h : Books d l) (c : DisplayCall) : Books (d.call c) (l.noted d c) := by
  cases c with
  | acquire id => exact h.acquire id
  | present resource frame => exact h.present resource frame
  | release id => exact h.release id
  | failNext n => exact h.onward rfl rfl rfl rfl
  | refuse => exact h.onward rfl rfl rfl rfl

theorem run (h : Books d l) (cs : List DisplayCall) :
    Books (logged.run (d, l) cs).1 (logged.run (d, l) cs).2 := by
  induction cs generalizing d l with
  | nil => exact h
  | cons c cs ih => exact ih (h.next c)

end Books

def ownAnswer? (d : HeadlessDisplay) : DisplayCall → Option (Frame × Except PresentError Unit)
  | .present resource frame =>
    if d.owner = some resource then some (frame, (d.present resource frame).1) else none
  | .acquire _ | .release _ | .failNext _ | .refuse => none

def ownAnswers (d : HeadlessDisplay) : List DisplayCall → List (Frame × Except PresentError Unit)
  | [] => []
  | c :: cs => (d.ownAnswer? c).toList ++ (d.call c).ownAnswers cs

/-- How a frame of the owner ends while so many are still to fail. -/
def ordered (failures : Nat) (frame : Frame) : Except PresentError Unit :=
  if 0 < failures then .error (.injected frame.sequence) else .ok ()

theorem ownAnswer?_cases (d : HeadlessDisplay) {c : DisplayCall} (other : c.isFailNext = false) :
    d.ownAnswer? c = none ∧ (d.call c).failuresLeft = d.failuresLeft ∨
      ∃ frame, d.ownAnswer? c = some (frame, ordered d.failuresLeft frame) ∧
        (d.call c).failuresLeft = d.failuresLeft - 1 := by
  cases c with
  | present resource frame =>
    rcases present_ends resource frame d with
      ⟨owned, ended⟩ | ⟨owned, failing, ended⟩ | ⟨owned, calm, ended⟩
    · exact .inl ⟨if_neg owned, by rw [call, ended]⟩
    · exact .inr ⟨frame, by rw [ownAnswer?, if_pos owned, ended, ordered, if_pos failing],
        by rw [call, ended]⟩
    · exact .inr ⟨frame, by rw [ownAnswer?, if_pos owned, ended, ordered, if_neg (by omega)],
        by rw [call, ended, calm]; exact calm⟩
  | acquire id =>
    obtain ⟨owner, changed⟩ := acquire_changes id d
    exact .inl ⟨rfl, by rw [call, changed]⟩
  | release id =>
    refine .inl ⟨rfl, ?_⟩
    simp only [call, release]
    split <;> rfl
  | failNext n => cases other
  | refuse => exact .inl ⟨rfl, rfl⟩

theorem ownAnswers_eq {cs : List DisplayCall} (others : ∀ c ∈ cs, c.isFailNext = false) {i : Nat}
    {frame : Frame} {answer : Except PresentError Unit}
    (here : (d.ownAnswers cs)[i]? = some (frame, answer)) :
    answer = ordered (d.failuresLeft - i) frame := by
  induction cs generalizing d i with
  | nil => cases here
  | cons c cs ih =>
    obtain ⟨other, others⟩ := List.forall_mem_cons.mp others
    rcases d.ownAnswer?_cases other with ⟨answered, left⟩ | ⟨first, answered, left⟩
    · rw [ownAnswers, answered] at here
      rw [← left]
      exact ih others here
    · rw [ownAnswers, answered] at here
      cases i with
      | zero =>
        cases here
        rfl
      | succ i =>
        have rest := ih others here
        rwa [left, Nat.sub_sub, Nat.add_comm 1 i] at rest

/-- A display keeps the latest of all frames that it accepted, their number, and how many of them needed an
import. Of the frames that the owner presents after failures were ordered, just so many fail. A frame that
is presented by anybody else changes nothing, and one that fails changes no books. -/
theorem books_are_those_of_log (cs : List DisplayCall) :
    let d := calls.run {} cs
    let l := (logged.run ({}, {}) cs).2
    (d.recent = l.frames.drop (l.frames.length - historyLength) ∧ d.last? = l.frames.getLast? ∧
      d.presented = l.frames.length ∧ d.imports = Showing.imports l.shown) ∧
    (∀ n after, (∀ c ∈ after, c.isFailNext = false) → ∀ i frame answer,
      ((d.failNext n).ownAnswers after)[i]? = some (frame, answer) →
        answer = if i < n then .error (.injected frame.sequence) else .ok ()) ∧
    (∀ resource frame, d.owner ≠ some resource →
      d.present resource frame = (.error (.notAcquired resource), d)) ∧
    ∀ resource frame e, (d.present resource frame).1 = .error e →
      ∃ left, (d.present resource frame).2 = { d with failuresLeft := left } := by
  intro d l
  have same : (logged.run ({}, {}) cs).1 = d := System.run_observed ..
  have books : Books d l := same ▸ Books.initial.run cs
  refine ⟨⟨books.recent, ?_, books.presented, books.imports⟩, ?_, ?_, ?_⟩
  · have some : 0 < historyLength := by decide
    rw [last?, books.recent, List.getLast?_drop]
    split
    · rw [List.length_eq_zero_iff.mp (show l.frames.length = 0 by omega)]
      rfl
    · rfl
  · intro n after others i frame answer here
    rw [ownAnswers_eq others here, ordered]
    simp only [failNext, Nat.sub_pos_iff_lt]
  · intro resource frame other
    rw [present, if_pos other]
  · intro resource frame e failed
    rcases present_ends resource frame d with ⟨_, ended⟩ | ⟨_, _, ended⟩ | ⟨_, _, ended⟩
    · exact ⟨d.failuresLeft, by rw [ended]⟩
    · exact ⟨_, by rw [ended]⟩
    · rw [ended] at failed
      cases failed

end HeadlessDisplay

end DisplaySurface
