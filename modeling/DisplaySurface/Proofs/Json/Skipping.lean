import DisplaySurface.Json.Skip
import DisplaySurface.Proofs.Json.Grammar
import Mathlib

/-!
Passing over values. Whatever value the grammar allows, and however deep it is nested, passing over it ends
exactly behind it. What follows must only not look like the rest of a number.
-/

namespace DisplaySurface.Json

/-- What may stand behind a value without becoming a part of it. -/
def Ends (rest : List Char) : Prop :=
  ∀ c s, rest = c :: s → isDigit c = false ∧ c ≠ '.' ∧ c ≠ 'e' ∧ c ≠ 'E'

section Characters

variable {gap rest s ds : List Char} {c : Char}

theorem skipBlank_append (blank : Blank gap) (s : List Char) : skipBlank (gap ++ s) = skipBlank s := by
  induction gap with
  | nil => rfl
  | cons c gap ih =>
    obtain ⟨here, later⟩ := List.forall_mem_cons.mp blank
    rw [← ih later]
    exact List.dropWhile_cons_of_pos here

theorem skipBlank_cons (solid : isBlank c = false) (s : List Char) : skipBlank (c :: s) = c :: s :=
  List.dropWhile_cons_of_neg (by simp [solid])

theorem skipBlank_of_solid (blank : Blank gap) (solid : isBlank c = false) (s : List Char) :
    skipBlank (gap ++ c :: s) = c :: s := by
  rw [skipBlank_append blank, skipBlank_cons solid]

theorem isDigit_eq (c : Char) : isDigit c = c.isDigit := by
  rw [Bool.eq_iff_iff]
  simp only [isDigit, digit?, Text.digitValue?, Text.hexValue?, Char.isDigit, Char.le_def,
    UInt32.le_iff_toNat_le, ge_iff_le, Bool.and_eq_true, decide_eq_true_eq, Char.toNat]
  split
  · simp_all
    omega
  · split
    · simp_all
      omega
    · split
      · simp_all
        omega
      · simp_all

theorem isDigit_of_blank (blank : isBlank c = true) :
    isDigit c = false ∧ c ≠ '.' ∧ c ≠ 'e' ∧ c ≠ 'E' := by
  simp only [isBlank, Bool.or_eq_true, decide_eq_true_eq] at blank
  rcases blank with ((rfl | rfl) | rfl) | rfl <;> decide

theorem solid_of_isDigit (digit : isDigit c = true) : isBlank c = false := by
  cases blank : isBlank c with
  | false => rfl
  | true =>
    rw [(isDigit_of_blank blank).1] at digit
    cases digit

theorem Ends.startsWithDigit (ends : Ends rest) : startsWithDigit rest = false := by
  cases rest with
  | nil => rfl
  | cons c s => exact (ends c s rfl).1

theorem ends_nil : Ends [] := by
  rintro c s ⟨⟩

theorem ends_cons (other : isDigit c = false ∧ c ≠ '.' ∧ c ≠ 'e' ∧ c ≠ 'E') (s : List Char) :
    Ends (c :: s) := by
  rintro d t ⟨⟩
  exact other

theorem ends_comma (s : List Char) : Ends (',' :: s) :=
  ends_cons (by decide) s

theorem ends_bracket (s : List Char) : Ends (']' :: s) :=
  ends_cons (by decide) s

theorem ends_brace (s : List Char) : Ends ('\x7d' :: s) :=
  ends_cons (by decide) s

theorem Ends.behind (ends : Ends rest) (blank : Blank gap) : Ends (gap ++ rest) := by
  cases gap with
  | nil => exact ends
  | cons c gap => exact ends_cons (isDigit_of_blank (blank c List.mem_cons_self)) _

theorem dropDigits_append (digits : ∀ d ∈ ds, d.isDigit = true) (stop : startsWithDigit rest = false) :
    dropDigits (ds ++ rest) = rest := by
  induction ds with
  | nil =>
    cases rest with
    | nil => rfl
    | cons c s => exact List.dropWhile_cons_of_neg (by simpa [startsWithDigit] using stop)
  | cons d ds ih =>
    obtain ⟨here, later⟩ := List.forall_mem_cons.mp digits
    rw [← isDigit_eq] at here
    exact (List.dropWhile_cons_of_pos here).trans (ih later)

theorem Digits.starts (digits : Digits ds) (rest : List Char) : startsWithDigit (ds ++ rest) = true := by
  obtain ⟨some, all⟩ := digits
  cases ds with
  | nil => exact absurd rfl some
  | cons d ds =>
    have digit := all d List.mem_cons_self
    rw [← isDigit_eq] at digit
    exact digit

end Characters

section Numbers

variable {rest : List Char}

theorem skipExponent_append {sign ds : List Char} (signed : sign = [] ∨ sign = ['+'] ∨ sign = ['-'])
    (digits : Digits ds) (ends : Ends rest) : skipExponent (sign ++ (ds ++ rest)) = .ok rest := by
  have behind : (if startsWithDigit (ds ++ rest) = true then Except.ok (dropDigits (ds ++ rest))
      else .error Fault.invalidNumber) = .ok rest := by
    rw [if_pos (digits.starts rest), dropDigits_append digits.2 ends.startsWithDigit]
  rcases signed with rfl | rfl | rfl
  · have unsigned : ∀ c s, ds ++ rest = c :: s → c ≠ '+' ∧ c ≠ '-' := by
      intro c s here
      have digit := digits.starts rest
      rw [here] at digit
      constructor
      · rintro rfl
        cases digit
      · rintro rfl
        cases digit
    rw [List.nil_append, skipExponent]
    · exact behind
    · intro s here
      exact (unsigned _ s here).1 rfl
    · intro s here
      exact (unsigned _ s here).2 rfl
  · exact behind
  · exact behind

theorem skipExponent_of (exponent : List Char) (isExponent : Exponent exponent) (ends : Ends rest) :
    startsWithDigit (exponent ++ rest) = false ∧ skipFraction (exponent ++ rest) = .ok rest := by
  cases isExponent with
  | none =>
    refine ⟨ends.startsWithDigit, ?_⟩
    cases rest with
    | nil => rfl
    | cons c s =>
      obtain ⟨_, point, small, large⟩ := ends c s rfl
      rw [List.nil_append, skipFraction]
      · rintro t ⟨⟩
        exact point rfl
      · rintro t ⟨⟩
        exact small rfl
      · rintro t ⟨⟩
        exact large rfl
  | some mark sign ds letter signed digits =>
    have behind := skipExponent_append signed digits ends
    rcases letter with rfl | rfl
    · refine ⟨rfl, ?_⟩
      simpa only [List.cons_append, List.append_assoc, skipFraction] using behind
    · refine ⟨rfl, ?_⟩
      simpa only [List.cons_append, List.append_assoc, skipFraction] using behind

theorem skipFraction_of {fraction exponent : List Char} (isFraction : Fraction fraction)
    (isExponent : Exponent exponent) (ends : Ends rest) :
    startsWithDigit (fraction ++ (exponent ++ rest)) = false ∧
      skipFraction (fraction ++ (exponent ++ rest)) = .ok rest := by
  obtain ⟨stop, behind⟩ := skipExponent_of exponent isExponent ends
  cases isFraction with
  | none => exact ⟨stop, behind⟩
  | some ds digits =>
    refine ⟨rfl, ?_⟩
    rw [List.cons_append, skipFraction, if_pos (digits.starts _), dropDigits_append digits.2 stop]
    cases isExponent with
    | none =>
      cases rest with
      | nil => rfl
      | cons c s =>
        obtain ⟨_, _, small, large⟩ := ends c s rfl
        split
        · rename_i t here
          cases here
          exact absurd rfl small
        · rename_i t here
          cases here
          exact absurd rfl large
        · rfl
    | some mark sign es letter signed digits' =>
      have behind := skipExponent_append signed digits' ends
      rcases letter with rfl | rfl
      · simpa only [List.cons_append, List.append_assoc, skipFraction] using behind
      · simpa only [List.cons_append, List.append_assoc, skipFraction] using behind

theorem skipNumber_of {whole fraction exponent : List Char} (isWhole : Whole whole)
    (isFraction : Fraction fraction) (isExponent : Exponent exponent) (ends : Ends rest) :
    skipNumber (whole ++ (fraction ++ (exponent ++ rest))) = .ok rest := by
  obtain ⟨stop, behind⟩ := skipFraction_of isFraction isExponent ends
  cases isWhole with
  | zero =>
    rw [List.singleton_append, skipNumber, stop]
    exact behind
  | other c ds nonzero digits =>
    have digit : isDigit c = true := by
      rw [isDigit_eq]
      exact digits.2 c List.mem_cons_self
    rw [List.cons_append, skipNumber]
    · rw [if_pos digit, dropDigits_append (fun d mem => digits.2 d (List.mem_cons_of_mem _ mem)) stop]
      exact behind
    · exact nonzero

end Numbers

section Strings

theorem readHex4_append {ds : List Char} {n : Nat} (value : Hex4 ds n) (rest : List Char) :
    readHex4 (ds ++ rest) = .ok (n, rest) := by
  obtain ⟨a, b, c, d, x, y, z, w, rfl, ha, hb, hc, hd, rfl⟩ := value
  simp only [List.cons_append, List.nil_append, readHex4, ha, hb, hc, hd]

theorem skipEscape_letter {letter c : Char} (known : (letter, c) ∈ escapes) (s : List Char) :
    skipEscape (letter :: s) = .ok s := by
  simp only [escapes, List.mem_cons, Prod.mk.injEq, List.not_mem_nil, or_false] at known
  rcases known with h | h | h | h | h | h | h | h <;> obtain ⟨rfl, -⟩ := h <;> rfl

theorem skipString_stroke {text : List Char} (stroke : IsStroke text) (s : List Char) :
    skipString (text ++ s) = skipString s := by
  cases stroke with
  | plain c plain =>
    obtain ⟨shown, quote, slash⟩ := plain
    rw [List.singleton_append, skipString]
    · rw [if_neg (by omega)]
    · exact quote
    · exact slash
  | escape letter c known =>
    rw [List.cons_append, List.singleton_append, skipString, skipEscape_letter known]
  | number ds n value =>
    have escaped : skipEscape ('u' :: (ds ++ s)) = .ok s := by
      rw [skipEscape, readHex4_append value]
    rw [List.cons_append, List.cons_append, skipString, escaped]

theorem skipString_append {body : List Char} (strokes : AreStrokes body) (rest : List Char) :
    skipString (body ++ '"' :: rest) = .ok rest := by
  induction strokes with
  | nil => rw [List.nil_append, skipString]
  | cons first later ih => rw [List.append_assoc, skipString_stroke first, ih]

end Strings

section Machine

theorem skip_value_eq (stack : List Bracket) (s : List Char) : skip .value stack s =
    match skipBlank s with
    | [] => .error .endInValue
    | '[' :: rest => skip .opened (.list :: stack) rest
    | '\x7b' :: rest => skip .opened (.object :: stack) rest
    | c :: rest =>
      match skipScalar (c :: rest) with
      | .error e => .error e
      | .ok rest => skip .next stack rest := by
  rw [skip]
  split <;> simp_all
  split <;> simp_all

theorem skip_key_eq (stack : List Bracket) (s : List Char) : skip .key stack s =
    match skipBlank s with
    | '"' :: rest =>
      match skipKey rest with
      | .error e => .error e
      | .ok rest => skip .value stack rest
    | [] => .error .endInObject
    | _ => .error .keyNotString := by
  rw [skip]
  split <;> simp_all
  split <;> simp_all

theorem skip_opened_eq (b : Bracket) (outer : List Bracket) (s : List Char) : skip .opened (b :: outer) s =
    match skipBlank s with
    | [] => .error b.atEnd
    | c :: rest =>
      if c = b.close then skip .next outer rest
      else skip b.item (b :: outer) (c :: rest) := by
  rw [skip]
  split <;> simp_all

theorem skip_next_eq (b : Bracket) (outer : List Bracket) (s : List Char) : skip .next (b :: outer) s =
    match skipBlank s with
    | [] => .error b.atEnd
    | c :: rest =>
      if c = ',' then skip b.item (b :: outer) rest
      else if c = b.close then skip .next outer rest
      else .error b.expected := by
  rw [skip]
  split <;> simp_all

variable {gap rest : List Char} {b : Bracket} {stack outer : List Bracket}

theorem skip_item_append (stack : List Bracket) (blank : Blank gap) (s : List Char) :
    skip b.item stack (gap ++ s) = skip b.item stack s := by
  cases b with
  | list => rw [Bracket.item, skip_value_eq, skip_value_eq, skipBlank_append blank]
  | object => rw [Bracket.item, skip_key_eq, skip_key_eq, skipBlank_append blank]

/-- An item between brackets of this kind is passed over, and it does not look like the end. -/
structure Bracket.Passes (b : Bracket) (item : List Char) : Prop where
  starts : ∃ c s, item = c :: s ∧ isBlank c = false ∧ c ≠ b.close
  passes : ∀ stack rest, Ends rest → skip b.item stack (item ++ rest) = skip .next stack rest

theorem skip_next_close (blank : Blank gap) :
    skip .next (b :: outer) (gap ++ b.close :: rest) = skip .next outer rest := by
  have solid : isBlank b.close = false := by cases b <;> rfl
  have other : b.close ≠ ',' := by cases b <;> decide
  rw [skip_next_eq, skipBlank_of_solid blank solid]
  simp only [other, if_true, if_false]

theorem skip_next_comma (blank : Blank gap) :
    skip .next (b :: outer) (gap ++ ',' :: rest) = skip b.item (b :: outer) rest := by
  rw [skip_next_eq, skipBlank_of_solid blank rfl]
  simp only [if_true]

theorem ends_close (b : Bracket) (s : List Char) : Ends (b.close :: s) := by
  cases b with
  | list => exact ends_bracket s
  | object => exact ends_brace s

theorem skip_items {items : List (List Char)} {body : List Char} (outer : List Bracket)
    (rest : List Char) (elements : Elements items body) (each : ∀ item ∈ items, b.Passes item)
    (some : items ≠ []) :
    skip b.item (b :: outer) (body ++ b.close :: rest) = skip .next outer rest := by
  induction elements with
  | none => exact absurd rfl some
  | one before item after blank blank' =>
    have here := each item List.mem_cons_self
    rw [List.append_assoc, List.append_assoc, skip_item_append _ blank,
      here.passes _ _ ((ends_close b rest).behind blank'), skip_next_close blank']
  | more before item after next items later blank blank' _ ih =>
    obtain ⟨here, others⟩ := List.forall_mem_cons.mp each
    rw [List.append_assoc, List.append_assoc, List.append_assoc, List.cons_append,
      skip_item_append _ blank, here.passes _ _ ((ends_comma _).behind blank'), skip_next_comma blank']
    exact ih others (List.cons_ne_nil _ _)

theorem Elements.first {item : List Char} {items : List (List Char)} {body : List Char}
    (elements : Elements (item :: items) body) : ∃ gap s, Blank gap ∧ body = gap ++ (item ++ s) := by
  cases elements with
  | one before _ after blank => exact ⟨before, after, blank, rfl⟩
  | more before _ after next items later blank => exact ⟨before, _, blank, rfl⟩

theorem skip_opened {items : List (List Char)} {body : List Char} (outer : List Bracket)
    (rest : List Char) (elements : Elements items body) (each : ∀ item ∈ items, b.Passes item) :
    skip .opened (b :: outer) (body ++ b.close :: rest) = skip .next outer rest := by
  cases items with
  | nil =>
    cases elements with
    | none _ blank =>
      have solid : isBlank b.close = false := by cases b <;> rfl
      rw [skip_opened_eq, skipBlank_of_solid blank solid]
      exact if_pos rfl
  | cons item items =>
    have inside := skip_items outer rest elements each (List.cons_ne_nil _ _)
    obtain ⟨gap, s, blank, body_eq⟩ := elements.first
    obtain ⟨c, t, item_eq, solid, other⟩ := (each item List.mem_cons_self).starts
    rw [body_eq, item_eq] at inside ⊢
    simp only [List.append_assoc, List.cons_append] at inside ⊢
    rw [skip_item_append _ blank] at inside
    rw [skip_opened_eq, skipBlank_of_solid blank solid]
    exact (if_neg other).trans inside

theorem skip_scalar {c : Char} {s : List Char} (solid : isBlank c = false)
    (unbracketed : c ≠ '[' ∧ c ≠ '\x7b') (scalar : skipScalar (c :: s) = .ok rest) :
    skip .value stack (c :: s) = skip .next stack rest := by
  rw [skip_value_eq, skipBlank_cons solid]
  split
  · rename_i h
    cases h
  · rename_i h
    cases h
    exact absurd rfl unbracketed.1
  · rename_i h
    cases h
    exact absurd rfl unbracketed.2
  · rename_i h
    cases h
    rw [scalar]

theorem skip_key {key : List Char} (string : IsString key) (blank : Blank gap) (s : List Char) :
    skip .key stack (key ++ (gap ++ ':' :: s)) = skip .value stack s := by
  obtain ⟨body, strokes, rfl⟩ := string
  have key : skipKey (body ++ '"' :: (gap ++ ':' :: s)) = .ok s := by
    rw [skipKey, skipString_append strokes]
    simp only [skipBlank_of_solid blank (show isBlank ':' = false from rfl)]
  have text : '"' :: (body ++ ['"']) ++ (gap ++ ':' :: s) =
      '"' :: (body ++ '"' :: (gap ++ ':' :: s)) := by simp
  rw [text, skip_key_eq, skipBlank_cons rfl]
  simp only [key]

theorem Member.passes {m : Member} (string : IsString m.key) (value : Bracket.list.Passes m.value)
    {text : List Char} (written : m.Text text) : Bracket.object.Passes text := by
  obtain ⟨before, after, blank, blank'⟩ := written
  constructor
  · obtain ⟨body, _, key⟩ := string
    exact ⟨'"', _, by rw [key]; rfl, rfl, by decide⟩
  · intro stack rest ends
    rw [List.append_assoc, List.append_assoc, List.cons_append, List.append_assoc, Bracket.item,
      skip_key string blank]
    exact (skip_item_append (b := .list) _ blank' _).trans (value.passes stack rest ends)

theorem skipScalar_number {text : List Char} (number : IsNumber text) (ends : Ends rest) :
    ∃ c s, text = c :: s ∧ isBlank c = false ∧ c ≠ ']' ∧ c ≠ '[' ∧ c ≠ '\x7b' ∧
      skipScalar (c :: s ++ rest) = .ok rest := by
  obtain ⟨sign, whole, fraction, exponent, signed, isWhole, isFraction, isExponent⟩ := number
  have behind := skipNumber_of isWhole isFraction isExponent ends
  rcases signed with rfl | rfl
  · obtain ⟨c, ds, rfl, digit⟩ : ∃ c ds, whole = c :: ds ∧ c.isDigit = true := by
      cases isWhole with
      | zero => exact ⟨'0', [], rfl, rfl⟩
      | other c ds _ digits => exact ⟨c, ds, rfl, digits.2 c List.mem_cons_self⟩
    rw [← isDigit_eq] at digit
    have other : ∀ d, isDigit d = false → c ≠ d := by
      rintro d no rfl
      rw [digit] at no
      cases no
    refine ⟨c, ds ++ (fraction ++ exponent), rfl, solid_of_isDigit digit, other _ rfl, other _ rfl,
      other _ rfl, ?_⟩
    simp only [List.cons_append, List.append_assoc] at behind ⊢
    rw [skipScalar, if_pos digit]
    · exact behind
    all_goals exact other _ rfl
  · refine ⟨'-', whole ++ (fraction ++ exponent), rfl, rfl, by decide, by decide, by decide, ?_⟩
    simpa only [List.cons_append, List.append_assoc, skipScalar] using behind

theorem IsValue.passes {text : List Char} (value : IsValue text) : Bracket.list.Passes text := by
  induction value with
  | null => exact ⟨⟨'n', _, rfl, rfl, by decide⟩, fun stack rest ends => skip_scalar rfl (by decide) rfl⟩
  | yes => exact ⟨⟨'t', _, rfl, rfl, by decide⟩, fun stack rest ends => skip_scalar rfl (by decide) rfl⟩
  | no => exact ⟨⟨'f', _, rfl, rfl, by decide⟩, fun stack rest ends => skip_scalar rfl (by decide) rfl⟩
  | number text number =>
    constructor
    · obtain ⟨c, s, here, solid, other, _⟩ := skipScalar_number number ends_nil
      exact ⟨c, s, here, solid, other⟩
    · intro stack rest ends
      obtain ⟨c, s, rfl, solid, _, list, object, scalar⟩ := skipScalar_number number ends
      exact skip_scalar solid ⟨list, object⟩ scalar
  | string text string =>
    obtain ⟨body, strokes, rfl⟩ := string
    refine ⟨⟨'"', _, rfl, rfl, by decide⟩, fun stack rest ends => ?_⟩
    have scalar : skipScalar ('"' :: (body ++ ['"'] ++ rest)) = .ok rest := by
      rw [skipScalar, List.append_assoc]
      exact skipString_append strokes rest
    exact skip_scalar rfl (by decide) scalar
  | list values body elements each ih =>
    refine ⟨⟨'[', _, rfl, rfl, by decide⟩, fun stack rest ends => ?_⟩
    have inside := skip_opened stack rest elements ih
    rw [Bracket.item, skip_value_eq, List.cons_append, skipBlank_cons rfl, List.append_assoc]
    exact inside
  | object ms body members keys each ih =>
    refine ⟨⟨'\x7b', _, rfl, rfl, by decide⟩, fun stack rest ends => ?_⟩
    obtain ⟨texts, written, elements⟩ := members
    have passes : ∀ text ∈ texts, Bracket.object.Passes text := by
      clear elements each
      induction written with
      | nil => simp
      | cons here later ih' =>
        obtain ⟨key, keys⟩ := List.forall_mem_cons.mp keys
        obtain ⟨first, others⟩ := List.forall_mem_cons.mp ih
        exact List.forall_mem_cons.mpr ⟨Member.passes key first here, ih' keys others⟩
    have inside := skip_opened stack rest elements passes
    rw [Bracket.item, skip_value_eq, List.cons_append, skipBlank_cons rfl, List.append_assoc]
    exact inside

theorem skipValue_append {text : List Char} (value : IsValue text) (blank : Blank gap)
    (ends : Ends rest) : skipValue (gap ++ (text ++ rest)) = .ok rest := by
  have passed := (skip_item_append (b := .list) [] blank (text ++ rest)).trans
    (value.passes.passes [] rest ends)
  rw [skipValue]
  exact passed.trans (by rw [skip])

end Machine

end DisplaySurface.Json
