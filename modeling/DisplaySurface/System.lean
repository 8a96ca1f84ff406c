/-!
Systems that make one step after the other. A trace is a list of events; it is valid where each event
is enabled in the state that those before it lead to.
-/

namespace DisplaySurface

structure System (κ ε : Type) where
  Enabled : κ → ε → Prop
  next : κ → ε → κ

namespace System

variable {κ ε ω : Type}

def run (S : System κ ε) (c : κ) : List ε → κ
  | [] => c
  | e :: es => S.run (S.next c e) es

def Valid (S : System κ ε) (c : κ) : List ε → Prop
  | [] => True
  | e :: es => S.Enabled c e ∧ S.Valid (S.next c e) es

def Reachable (S : System κ ε) (c₀ c : κ) : Prop :=
  ∃ es, S.Valid c₀ es ∧ S.run c₀ es = c

def only (S : System κ ε) (P : ε → Prop) : System κ ε where
  Enabled c e := S.Enabled c e ∧ P e
  next := S.next

/-- The same system without the events that `P` does not allow where they would happen. -/
def restrict (S : System κ ε) (P : κ → ε → Prop) : System κ ε where
  Enabled c e := S.Enabled c e ∧ P c e
  next := S.next

/-- A system with an observer, who sees each event in the state that it happens in. What the observer
knows may rule out events, but never changes what they do. -/
def observed (S : System κ ε) (see : κ → ε → ω → ω) (allows : ω → ε → Prop) :
    System (κ × ω) ε where
  Enabled c e := S.Enabled c.1 e ∧ allows c.2 e
  next c e := (S.next c.1 e, see c.1 e c.2)

/-- In every state that the trace passes, from the first to the last. -/
def Throughout (S : System κ ε) (P : κ → Prop) (c : κ) : List ε → Prop
  | [] => P c
  | e :: es => P c ∧ S.Throughout P (S.next c e) es

def Avoids (S : System κ ε) (Q : κ → ε → Prop) (c : κ) : List ε → Prop
  | [] => True
  | e :: es => ¬ Q c e ∧ S.Avoids Q (S.next c e) es

@[simp] theorem run_nil (S : System κ ε) (c : κ) : S.run c [] = c := rfl

@[simp] theorem run_cons (S : System κ ε) (c : κ) (e : ε) (es : List ε) :
    S.run c (e :: es) = S.run (S.next c e) es := rfl

@[simp] theorem valid_nil (S : System κ ε) (c : κ) : S.Valid c [] := trivial

@[simp] theorem valid_cons (S : System κ ε) (c : κ) (e : ε) (es : List ε) :
    S.Valid c (e :: es) ↔ S.Enabled c e ∧ S.Valid (S.next c e) es := Iff.rfl

theorem run_append (S : System κ ε) (c : κ) (es fs : List ε) :
    S.run c (es ++ fs) = S.run (S.run c es) fs := by
  induction es generalizing c with
  | nil => rfl
  | cons e es ih => exact ih (S.next c e)

theorem valid_append (S : System κ ε) (c : κ) (es fs : List ε) :
    S.Valid c (es ++ fs) ↔ S.Valid c es ∧ S.Valid (S.run c es) fs := by
  induction es generalizing c with
  | nil => simp
  | cons e es ih => simp [ih, and_assoc]

theorem run_only (S : System κ ε) (P : ε → Prop) (c : κ) (es : List ε) :
    (S.only P).run c es = S.run c es := by
  induction es generalizing c with
  | nil => rfl
  | cons e es ih => exact ih (S.next c e)

theorem valid_only (S : System κ ε) (P : ε → Prop) (c : κ) (es : List ε) :
    (S.only P).Valid c es ↔ S.Valid c es ∧ ∀ e ∈ es, P e := by
  induction es generalizing c with
  | nil => simp
  | cons e es ih =>
    have rest := ih (S.next c e)
    simp only [valid_cons, List.forall_mem_cons]
    constructor
    · rintro ⟨⟨enabled, he⟩, valid⟩
      obtain ⟨valid, hes⟩ := rest.mp valid
      exact ⟨⟨enabled, valid⟩, he, hes⟩
    · rintro ⟨⟨enabled, valid⟩, he, hes⟩
      exact ⟨⟨enabled, he⟩, rest.mpr ⟨valid, hes⟩⟩

theorem run_observed (S : System κ ε) (see : κ → ε → ω → ω) (allows : ω → ε → Prop) (c : κ × ω)
    (es : List ε) : ((S.observed see allows).run c es).1 = S.run c.1 es := by
  induction es generalizing c with
  | nil => rfl
  | cons e es ih => exact ih (S.next c.1 e, see c.1 e c.2)

theorem valid_of_observed {S : System κ ε} {see : κ → ε → ω → ω} {allows : ω → ε → Prop} {c : κ × ω}
    {es : List ε} (h : (S.observed see allows).Valid c es) : S.Valid c.1 es := by
  induction es generalizing c with
  | nil => trivial
  | cons e es ih => exact ⟨h.1.1, ih h.2⟩

/-- Where an event spoils what held before it exactly if it is of one kind, that kind is all there is to
look for in a trace. -/
theorem throughout_iff_avoids {S : System κ ε} {I P : κ → Prop} {Q : κ → ε → Prop} {c : κ}
    {es : List ε} (keeps : ∀ c e, I c → S.Enabled c e → I (S.next c e))
    (spoils : ∀ c e, I c → P c → S.Enabled c e → (P (S.next c e) ↔ ¬ Q c e))
    (hI : I c) (hP : P c) (valid : S.Valid c es) : S.Throughout P c es ↔ S.Avoids Q c es := by
  induction es generalizing c with
  | nil => exact ⟨fun _ => trivial, fun _ => hP⟩
  | cons e es ih =>
    have step := spoils c e hI hP valid.1
    constructor
    · rintro ⟨_, rest⟩
      have hP' : P (S.next c e) := by
        cases es with
        | nil => exact rest
        | cons _ _ => exact rest.1
      exact ⟨step.mp hP', (ih (keeps c e hI valid.1) hP' valid.2).mp rest⟩
    · rintro ⟨first, rest⟩
      have hP' := step.mpr first
      exact ⟨hP, (ih (keeps c e hI valid.1) hP' valid.2).mpr rest⟩

instance decidableOnly (S : System κ ε) (P : ε → Prop) [∀ c e, Decidable (S.Enabled c e)]
    [DecidablePred P] (c : κ) (e : ε) : Decidable ((S.only P).Enabled c e) :=
  inferInstanceAs (Decidable (S.Enabled c e ∧ P e))

instance decidableRestrict (S : System κ ε) (P : κ → ε → Prop) [∀ c e, Decidable (S.Enabled c e)]
    [∀ c e, Decidable (P c e)] (c : κ) (e : ε) : Decidable ((S.restrict P).Enabled c e) :=
  inferInstanceAs (Decidable (S.Enabled c e ∧ P c e))

instance decidableObserved (S : System κ ε) (see : κ → ε → ω → ω) (allows : ω → ε → Prop)
    [∀ c e, Decidable (S.Enabled c e)] [∀ w e, Decidable (allows w e)] (c : κ × ω) (e : ε) :
    Decidable ((S.observed see allows).Enabled c e) :=
  inferInstanceAs (Decidable (S.Enabled c.1 e ∧ allows c.2 e))

instance decidableValid (S : System κ ε) [∀ c e, Decidable (S.Enabled c e)] :
    (c : κ) → (es : List ε) → Decidable (S.Valid c es)
  | _, [] => isTrue trivial
  | c, e :: es => @instDecidableAnd _ _ _ (decidableValid S (S.next c e) es)

instance decidableThroughout (S : System κ ε) (P : κ → Prop) [DecidablePred P] :
    (c : κ) → (es : List ε) → Decidable (S.Throughout P c es)
  | c, [] => inferInstanceAs (Decidable (P c))
  | c, e :: es => @instDecidableAnd _ _ _ (decidableThroughout S P (S.next c e) es)

instance decidableAvoids (S : System κ ε) (Q : κ → ε → Prop) [∀ c e, Decidable (Q c e)] :
    (c : κ) → (es : List ε) → Decidable (S.Avoids Q c es)
  | _, [] => isTrue trivial
  | c, e :: es => @instDecidableAnd _ _ _ (decidableAvoids S Q (S.next c e) es)

namespace Reachable

variable {S : System κ ε} {c₀ c : κ}

theorem refl (S : System κ ε) (c : κ) : S.Reachable c c := ⟨[], trivial, rfl⟩

theorem tail (h : S.Reachable c₀ c) {e : ε} (he : S.Enabled c e) :
    S.Reachable c₀ (S.next c e) := by
  obtain ⟨es, hv, rfl⟩ := h
  exact ⟨es ++ [e], (S.valid_append c₀ es [e]).mpr ⟨hv, he, trivial⟩, S.run_append c₀ es [e]⟩

theorem trace (h : S.Reachable c₀ c) {es : List ε} (hv : S.Valid c es) :
    S.Reachable c₀ (S.run c es) := by
  obtain ⟨ds, hd, rfl⟩ := h
  exact ⟨ds ++ es, (S.valid_append c₀ ds es).mpr ⟨hd, hv⟩, S.run_append c₀ ds es⟩

theorem trans {c₁ : κ} (h : S.Reachable c₀ c) (h' : S.Reachable c c₁) : S.Reachable c₀ c₁ := by
  obtain ⟨es, hv, rfl⟩ := h'
  exact h.trace hv

theorem of_observed {see : κ → ε → ω → ω} {allows : ω → ε → Prop} {p₀ p : κ × ω}
    (h : (S.observed see allows).Reachable p₀ p) : S.Reachable p₀.1 p.1 := by
  obtain ⟨es, hv, rfl⟩ := h
  exact ⟨es, valid_of_observed hv, (S.run_observed see allows p₀ es).symm⟩

theorem of_only {P : ε → Prop} (h : (S.only P).Reachable c₀ c) : S.Reachable c₀ c := by
  obtain ⟨es, hv, rfl⟩ := h
  exact ⟨es, ((S.valid_only P c₀ es).mp hv).1, (S.run_only P c₀ es).symm⟩

theorem only_mono {P Q : ε → Prop} (h : (S.only P).Reachable c₀ c) (weaker : ∀ e, P e → Q e) :
    (S.only Q).Reachable c₀ c := by
  obtain ⟨es, hv, rfl⟩ := h
  obtain ⟨valid, all⟩ := (S.valid_only P c₀ es).mp hv
  refine ⟨es, (S.valid_only Q c₀ es).mpr ⟨valid, fun e he => weaker e (all e he)⟩, ?_⟩
  rw [run_only, run_only]

theorem invariant {I : κ → Prop} (h : S.Reachable c₀ c) (h₀ : I c₀)
    (step : ∀ c e, S.Reachable c₀ c → I c → S.Enabled c e → I (S.next c e)) : I c := by
  obtain ⟨es, hv, rfl⟩ := h
  suffices ∀ es c, S.Reachable c₀ c → I c → S.Valid c es → I (S.run c es) from
    this es c₀ (refl S c₀) h₀ hv
  intro es
  induction es with
  | nil => exact fun _ _ h _ => h
  | cons e es ih => exact fun c hc h hv => ih _ (hc.tail hv.1) (step c e hc h hv.1) hv.2

theorem of_restrict {P : κ → ε → Prop} (h : (S.restrict P).Reachable c₀ c) : S.Reachable c₀ c :=
  h.invariant (refl S c₀) fun _ _ _ hc he => hc.tail he.1

end Reachable

end System

end DisplaySurface
