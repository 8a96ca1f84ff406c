import DisplaySurface.Handoff
import DisplaySurface.System

/-!
What passes through the handoff. Two lanes share its one place: frames on their way to the render thread,
and outcomes on their way back. Whoever calls, and in whatever order, what comes out of a lane is what went
in, in the same order, without what was cleared away before it could come out. A call that is refused leaves
everything where it is.
-/

namespace DisplaySurface

inductive HandoffCall where
  | offer (frame : Submission)
  | take
  | finish (outcome : Outcome)
  | collect
  | withdraw
  | reset

inductive HandoffAnswer where
  | offered (answer : Except SessionError Unit)
  | taken (frame : Option Submission)
  | finished (wanted : Bool)
  | collected (outcome : Option Outcome)
  /-- There is nothing to answer. -/
  | silent

def HandoffAnswer.isRefused : HandoffAnswer → Bool
  | offered (.error _) | taken none | finished false | collected none => true
  | offered (.ok ()) | taken (some _) | finished true | collected (some _) | silent => false

structure HandoffRecord where
  call : HandoffCall
  answer : HandoffAnswer

namespace Handoff

def call (h : Handoff) : HandoffCall → HandoffAnswer × Handoff
  | .offer frame => (.offered (h.offer frame).1, (h.offer frame).2)
  | .take => (.taken h.take.1, h.take.2)
  | .finish outcome => (.finished (h.finish outcome).1, (h.finish outcome).2)
  | .collect => (.collected h.collect.1, h.collect.2)
  | .withdraw => (.silent, h.withdraw)
  | .reset => (.silent, h.reset)

def calls : System Handoff HandoffCall where
  Enabled _ _ := True
  next h c := (h.call c).2

def history (h : Handoff) : List HandoffCall → List HandoffRecord
  | [] => []
  | c :: cs => ⟨c, (h.call c).1⟩ :: (h.call c).2.history cs

variable {h : Handoff}

theorem offer_accepted_iff (frame : Submission) : (h.offer frame).1 = .ok () ↔ h = .idle := by
  cases h <;> simp [offer]

theorem finish_accepted_iff (outcome : Outcome) : (h.finish outcome).1 = true ↔ h = .rendering := by
  cases h <;> simp [finish]

theorem withdraw_eq (h : Handoff) : h.withdraw = if h.isReady then .idle else h := by
  cases h <;> rfl

theorem call_of_refused (c : HandoffCall) (refused : (h.call c).1.isRefused = true) :
    (h.call c).2 = h := by
  cases c with
  | offer frame =>
    cases h with
    | idle => cases refused
    | ready | rendering | done => rfl
  | take =>
    cases h with
    | ready frame => cases refused
    | idle | rendering | done => rfl
  | finish outcome =>
    cases h with
    | rendering => cases refused
    | idle | ready | done => rfl
  | collect =>
    cases h with
    | done outcome => cases refused
    | idle | ready | rendering => rfl
  | withdraw | reset => cases refused

end Handoff

/-- What a call does to the things of one lane. -/
inductive Passage (α : Type) where
  | enters (a : α)
  | leaves (a : α)
  /-- Whatever is there is thrown away. -/
  | clears
  | nothing

namespace Passage

variable {α : Type}

def left? : Passage α → Option α
  | leaves a => some a
  | enters _ | clears | nothing => none

def left (ps : List (Passage α)) : List α :=
  ps.filterMap left?

def clearedFirst : List (Passage α) → Bool
  | [] | leaves _ :: _ => false
  | clears :: _ => true
  | enters _ :: ps | nothing :: ps => clearedFirst ps

/-- What went in, in order, without what was cleared away before it came out. -/
def kept : List (Passage α) → List α
  | [] => []
  | enters a :: ps => if clearedFirst ps then kept ps else a :: kept ps
  | leaves _ :: ps | clears :: ps | nothing :: ps => kept ps

/-- Whatever comes out is what went in last, and nothing came out in between: what went in once comes out at
most once. -/
def ReturnsOnce (ps : List (Passage α)) : Prop :=
  ∀ earlier a later, ps = earlier ++ leaves a :: later →
    ∃ start since, earlier = start ++ enters a :: since ∧ ∀ p ∈ since, p = nothing

/-- How a place with room for one thing is used: what is in it before, and afterwards. -/
inductive Turns : Option α → Passage α → Option α → Prop where
  | enters (a) : Turns none (enters a) (some a)
  | leaves (a) : Turns (some a) (leaves a) none
  | clears (held) : Turns held clears none
  | nothing (held) : Turns held nothing held

inductive Leads : Option α → List (Passage α) → Option α → Prop where
  | nil (held) : Leads held [] held
  | cons {before held after p ps} (first : Turns before p held) (rest : Leads held ps after) :
      Leads before (p :: ps) after

namespace Leads

variable {before after : Option α} {ps : List (Passage α)}

/-- Nothing is lost on the way, nothing is made up and nothing overtakes. What was in the place before counts
as what went in first. -/
theorem left_append_held (h : Leads before ps after) :
    left ps ++ after.toList = kept ((before.map enters).toList ++ ps) := by
  induction h with
  | nil held => cases held <;> rfl
  | @cons before _ _ _ _ first _ ih =>
    cases first with
    | enters a => exact ih
    | leaves a => exact congrArg (a :: ·) ih
    -- What is in the place stands first on the right, so these two have to look behind it.
    | clears => cases before <;> exact ih
    | nothing => cases before <;> exact ih

example : kept [enters 1, nothing, leaves 1, enters 2, clears, enters 3] = [1, 3] := rfl

/-- Where the thing that comes out was before: in the place from the start, or it went in on the way. -/
theorem origin (h : Leads before ps after) {earlier later : List (Passage α)} {a : α}
    (out : ps = earlier ++ leaves a :: later) :
    (before = some a ∧ ∀ p ∈ earlier, p = nothing) ∨
      ∃ start since, earlier = start ++ enters a :: since ∧ ∀ p ∈ since, p = nothing := by
  induction h generalizing earlier with
  | nil held => simp at out
  | cons first _ ih =>
    cases earlier with
    | nil =>
      cases out
      cases first
      exact .inl ⟨rfl, by simp⟩
    | cons p earlier =>
      cases out
      rcases ih rfl with ⟨held, still⟩ | ⟨start, since, rfl, still⟩
      -- It was in the place after the first passage, which brought it or found it there.
      · cases first with
        | enters =>
          cases held
          exact .inr ⟨[], earlier, rfl, still⟩
        | leaves | clears => cases held
        | nothing => exact .inl ⟨held, List.forall_mem_cons.mpr ⟨rfl, still⟩⟩
      · exact .inr ⟨_ :: start, since, rfl, still⟩

theorem returnsOnce (h : Leads none ps after) : ReturnsOnce ps := by
  intro earlier a later out
  rcases h.origin out with ⟨held, _⟩ | entered
  · cases held
  · exact entered

end Leads

end Passage

/-- A kind of things that pass through the handoff: what a call does to them, and which of them is in the
handoff. No call does anything else to what is there. -/
structure Lane (α : Type) where
  passage : HandoffRecord → Passage α
  held? : Handoff → Option α
  empty : held? .idle = none
  turns : ∀ h c, Passage.Turns (held? h) (passage ⟨c, (h.call c).1⟩) (held? (h.call c).2)

namespace Lane

variable {α : Type}

/-- Frames go in when they are offered and accepted, come out when they are taken, and are thrown away when
they are withdrawn or the handoff is reset. -/
def frames : Lane Submission where
  passage
    | ⟨.offer frame, .offered (.ok ())⟩ => .enters frame
    | ⟨.take, .taken (some frame)⟩ => .leaves frame
    | ⟨.withdraw, _⟩ | ⟨.reset, _⟩ => .clears
    | _ => .nothing
  held?
    | .ready frame => some frame
    | .idle | .rendering | .done _ => none
  empty := rfl
  turns h c := by
    cases c with
    | offer frame =>
      cases h with
      | idle => exact .enters frame
      | ready | rendering | done => exact .nothing _
    | take =>
      cases h with
      | ready frame => exact .leaves frame
      | idle | rendering | done => exact .nothing _
    | finish | collect => cases h <;> exact .nothing _
    | withdraw | reset => cases h <;> exact .clears _

/-- Outcomes go in when the frame is finished and still wanted, come out when they are collected, and are
thrown away when the handoff is reset. -/
def outcomes : Lane Outcome where
  passage
    | ⟨.finish outcome, .finished true⟩ => .enters outcome
    | ⟨.collect, .collected (some outcome)⟩ => .leaves outcome
    | ⟨.reset, _⟩ => .clears
    | _ => .nothing
  held?
    | .done outcome => some outcome
    | .idle | .ready _ | .rendering => none
  empty := rfl
  turns h c := by
    cases c with
    | finish outcome =>
      cases h with
      | rendering => exact .enters outcome
      | idle | ready | done => exact .nothing _
    | collect =>
      cases h with
      | done outcome => exact .leaves outcome
      | idle | ready | rendering => exact .nothing _
    | offer | take | withdraw => cases h <;> exact .nothing _
    | reset => cases h <;> exact .clears _

def passages (l : Lane α) (log : List HandoffRecord) : List (Passage α) :=
  log.map l.passage

theorem take_eq (h : Handoff) : h.take.1 = frames.held? h := by
  cases h <;> rfl

theorem collect_eq (h : Handoff) : h.collect.1 = outcomes.held? h := by
  cases h <;> rfl

theorem leads (l : Lane α) (h : Handoff) (cs : List HandoffCall) :
    Passage.Leads (l.held? h) (l.passages (h.history cs)) (l.held? (Handoff.calls.run h cs)) := by
  induction cs generalizing h with
  | nil => exact .nil _
  | cons c cs ih => exact .cons (l.turns h c) (ih (h.call c).2)

theorem leads_from_idle (l : Lane α) (cs : List HandoffCall) :
    Passage.Leads none (l.passages (Handoff.idle.history cs))
      (l.held? (Handoff.calls.run .idle cs)) := by
  rw [← l.empty]
  exact l.leads .idle cs

/-- What came out of a lane, with what is still in it, is what went in and was not cleared away. -/
theorem left_append_held (l : Lane α) (cs : List HandoffCall) :
    Passage.left (l.passages (Handoff.idle.history cs)) ++
        (l.held? (Handoff.calls.run .idle cs)).toList =
      Passage.kept (l.passages (Handoff.idle.history cs)) :=
  (l.leads_from_idle cs).left_append_held

theorem returnsOnce (l : Lane α) (cs : List HandoffCall) :
    Passage.ReturnsOnce (l.passages (Handoff.idle.history cs)) :=
  (l.leads_from_idle cs).returnsOnce

end Lane

namespace Handoff

/-- Whatever a handoff is told, the frames that are taken are those that were accepted, in order and without
those that were withdrawn or reset before; one that is not taken yet is still there, for the next who asks.
The same holds of the outcomes that are collected. Nothing is handed out twice. A frame is accepted exactly
where the handoff is idle, an outcome exactly where a frame is rendered; only a frame that waits can be
withdrawn, and a call that is refused changes nothing. -/
theorem accepted_things_come_out (cs : List HandoffCall) :
    let h := calls.run .idle cs
    let frames := Lane.frames.passages (idle.history cs)
    let outcomes := Lane.outcomes.passages (idle.history cs)
    (Passage.left frames ++ (Lane.frames.held? h).toList = Passage.kept frames ∧
      Passage.ReturnsOnce frames ∧ h.take.1 = Lane.frames.held? h) ∧
    (Passage.left outcomes ++ (Lane.outcomes.held? h).toList = Passage.kept outcomes ∧
      Passage.ReturnsOnce outcomes ∧ h.collect.1 = Lane.outcomes.held? h) ∧
    (∀ frame, (h.offer frame).1 = .ok () ↔ h = .idle) ∧
    (∀ outcome, (h.finish outcome).1 = true ↔ h = .rendering) ∧
    (h.withdraw = if h.isReady then .idle else h) ∧
    ∀ c, (h.call c).1.isRefused = true → (h.call c).2 = h := by
  intro h frames outcomes
  refine ⟨⟨Lane.frames.left_append_held cs, Lane.frames.returnsOnce cs, Lane.take_eq h⟩,
    ⟨Lane.outcomes.left_append_held cs, Lane.outcomes.returnsOnce cs, Lane.collect_eq h⟩, ?_⟩
  exact ⟨offer_accepted_iff, finish_accepted_iff, withdraw_eq h, call_of_refused⟩

end Handoff

end DisplaySurface
