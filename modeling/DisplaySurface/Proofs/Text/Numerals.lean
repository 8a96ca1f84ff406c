import DisplaySurface.Text.Basic
import Mathlib

/-!
Digits and the numbers they make. A reader with a bound accepts exactly the digits of a number below it, and
a number that was written in digits is read back.
-/

namespace DisplaySurface.Text

/-- The number that these digits make behind a number `n`. -/
def numeral? (base n : Nat) : List Char → Option Nat
  | [] => some n
  | c :: cs =>
    match digitValue? base c with
    | some v => numeral? base (n * base + v) cs
    | none => none

variable {base n m : Nat} {ds : List Char}

theorem numeral?_cons {c : Char} {v : Nat} (digit : digitValue? base c = some v) :
    numeral? base n (c :: ds) = numeral? base (n * base + v) ds := by
  rw [numeral?, digit]

theorem numeral?_append {ds' : List Char} (h : numeral? base n ds = some m) :
    numeral? base n (ds ++ ds') = numeral? base m ds' := by
  induction ds generalizing n with
  | nil =>
    cases h
    rfl
  | cons c ds ih =>
    cases digit : digitValue? base c with
    | none => simp [numeral?, digit] at h
    | some v =>
      rw [numeral?_cons digit] at h
      rw [List.cons_append, numeral?_cons digit]
      exact ih h

theorem le_of_numeral? (wide : 0 < base) (h : numeral? base n ds = some m) : n ≤ m := by
  induction ds generalizing n with
  | nil =>
    cases h
    exact Nat.le_refl _
  | cons c ds ih =>
    cases digit : digitValue? base c with
    | none => simp [numeral?, digit] at h
    | some v =>
      rw [numeral?_cons digit] at h
      have rest := ih h
      have scaled : n ≤ n * base := Nat.le_mul_of_pos_right n wide
      omega

theorem digitValue?_of_numeral? (h : numeral? base n ds = some m) {c : Char} (mem : c ∈ ds) :
    (digitValue? base c).isSome = true := by
  induction ds generalizing n with
  | nil => cases mem
  | cons d ds ih =>
    cases digit : digitValue? base d with
    | none => simp [numeral?, digit] at h
    | some v =>
      rw [numeral?_cons digit] at h
      rcases List.mem_cons.mp mem with rfl | later
      · simp [digit]
      · exact ih h later

theorem hexValue?_digitChar {v : Nat} (digit : v < 16) : hexValue? (Nat.digitChar v) = some v := by
  have table : ∀ v < 16, hexValue? (Nat.digitChar v) = some v := by decide
  exact table v digit

theorem digitValue?_digitChar (base : Nat) (small : base ≤ 16) {v : Nat} (digit : v < base) :
    digitValue? base (Nat.digitChar v) = some v := by
  rw [digitValue?, hexValue?_digitChar (by omega)]
  simp [digit]

theorem numeral?_writeDigits (wide : 1 < base) (small : base ≤ 16) (n : Nat) :
    numeral? base 0 (writeDigits base n) = some n := by
  induction n using Nat.strongRecOn with
  | ind n ih =>
    by_cases single : n < base
    · have digit := digitValue?_digitChar base small single
      rw [writeDigits, Nat.toDigits_of_lt_base single, numeral?_cons digit]
      simp [numeral?]
    · have front := ih (n / base) (Nat.div_lt_self (by omega) wide)
      have last : n % base < base := Nat.mod_lt n (by omega)
      rw [writeDigits, Nat.toDigits_of_base_le wide (by omega)]
      rw [writeDigits] at front
      rw [numeral?_append front, numeral?_cons (digitValue?_digitChar base small last), numeral?,
        Nat.div_add_mod']

theorem writeDigits_head (wide : 1 < base) (n : Nat) :
    ∃ v cs, writeDigits base n = Nat.digitChar v :: cs ∧ v < base ∧ (v = 0 → cs = []) := by
  rcases Nat.eq_zero_or_pos n with rfl | positive
  · exact ⟨0, [], Nat.toDigits_zero base, by omega, fun _ => rfl⟩
  · suffices ∃ v cs, writeDigits base n = Nat.digitChar v :: cs ∧ 0 < v ∧ v < base by
      obtain ⟨v, cs, digits, least, most⟩ := this
      exact ⟨v, cs, digits, most, fun zero => by omega⟩
    induction n using Nat.strongRecOn with
    | ind n ih =>
      by_cases single : n < base
      · exact ⟨n, [], Nat.toDigits_of_lt_base single, positive, single⟩
      · obtain ⟨v, cs, digits, least, most⟩ :=
          ih (n / base) (Nat.div_lt_self positive wide) (Nat.div_pos (by omega) (by omega))
        refine ⟨v, cs ++ [Nat.digitChar (n % base)], ?_, least, most⟩
        rw [writeDigits] at digits
        rw [writeDigits, Nat.toDigits_of_base_le wide (by omega), digits, List.cons_append]

theorem readDigitsFrom_of_numeral? {bound : Nat} (wide : 0 < base) (h : numeral? base n ds = some m)
    (below : m < bound) : readDigitsFrom base bound n ds = .ok m := by
  induction ds generalizing n with
  | nil =>
    cases h
    rfl
  | cons c ds ih =>
    cases digit : digitValue? base c with
    | none => simp [numeral?, digit] at h
    | some v =>
      rw [numeral?_cons digit] at h
      have least := le_of_numeral? wide h
      rw [readDigitsFrom, digit]
      simp only [show n * base + v < bound by omega, if_true]
      exact ih h

theorem digitValue?_plus (base : Nat) : digitValue? base '+' = none := by
  rw [digitValue?]
  rfl

theorem readDigits_of_numeral? {bound : Nat} (wide : 0 < base) (some : ds ≠ [])
    (h : numeral? base 0 ds = .some m) (below : m < bound) :
    readDigits base bound ds = .ok m ∧ readDigits base bound ('+' :: ds) = .ok m := by
  have read := readDigitsFrom_of_numeral? wide h below
  constructor
  · cases ds with
    | nil => exact absurd rfl some
    | cons c cs =>
      have unsigned : c ≠ '+' := by
        rintro rfl
        have digit := digitValue?_of_numeral? h List.mem_cons_self
        rw [digitValue?_plus] at digit
        cases digit
      rw [readDigits]
      · exact read
      · rintro ⟨⟩
      · rintro ⟨⟩
        exact unsigned rfl
      · rintro rest ⟨⟩
        exact unsigned rfl
  · cases ds with
    | nil => exact absurd rfl some
    | cons c cs => exact read

end DisplaySurface.Text
