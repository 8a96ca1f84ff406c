import DisplaySurface.Json.Lexeme
import DisplaySurface.Json.Number

/-!
Passing over a value that is not used. The brackets that are open are kept on a stack, so that values
may be nested to any depth.
-/

namespace DisplaySurface.Json

inductive Bracket where
  | list
  | object
  deriving DecidableEq, Repr

def Bracket.close : Bracket → Char
  | list => ']'
  | object => '\x7d'

def Bracket.atEnd : Bracket → Fault
  | list => .endInList
  | object => .endInObject

def Bracket.expected : Bracket → Fault
  | list => .expectedListEnd
  | object => .expectedObjectEnd

inductive Expecting where
  | value
  | key
  | opened
  | next
  deriving DecidableEq, Repr

def Bracket.item : Bracket → Expecting
  | list => .value
  | object => .key

theorem length_skipBlank (s : List Char) : (skipBlank s).length ≤ s.length :=
  (List.dropWhile_suffix _).length_le

theorem length_of_skipBlank {s rest : List Char} {c : Char} (h : skipBlank s = c :: rest) :
    rest.length < s.length := by
  have := length_skipBlank s
  rw [h] at this
  exact this

theorem length_dropDigits (s : List Char) : (dropDigits s).length ≤ s.length :=
  (List.dropWhile_suffix _).length_le

theorem length_of_skipWord {w s rest : List Char} (h : skipWord w s = .ok rest) :
    rest.length ≤ s.length := by
  induction w generalizing s with
  | nil => simp_all [skipWord]
  | cons c w ih =>
    cases s with
    | nil => simp [skipWord] at h
    | cons d s =>
      simp only [skipWord] at h
      split at h
      · have := ih h
        simp only [List.length_cons]
        omega
      · cases h

theorem length_of_skipString {s rest : List Char} (h : skipString s = .ok rest) :
    rest.length < s.length := by
  fun_induction skipString s with
  | case1 => cases h
  | case2 => simp_all
  | case3 => cases h
  | case4 r r' hr ih =>
    have := ih h
    have := length_of_skipEscape hr
    simp only [List.length_cons]
    omega
  | case5 => cases h
  | case6 _ _ _ _ _ ih =>
    have := ih h
    simp only [List.length_cons]
    omega

theorem length_of_readStringFrom {a : List Char} {s rest : List Char} {t : String}
    (h : readStringFrom a s = .ok (t, rest)) : rest.length < s.length := by
  fun_induction readStringFrom a s with
  | case1 => cases h
  | case2 => simp_all
  | case3 => cases h
  | case4 _ _ _ _ hr ih =>
    have := ih h
    have := length_of_readEscape hr
    simp only [List.length_cons]
    omega
  | case5 => cases h
  | case6 _ _ _ _ _ _ ih =>
    have := ih h
    simp only [List.length_cons]
    omega

theorem length_of_skipExponent {s rest : List Char} (h : skipExponent s = .ok rest) :
    rest.length ≤ s.length := by
  unfold skipExponent at h
  have key : ∀ t : List Char,
      (if startsWithDigit t then Except.ok (dropDigits t) else .error Fault.invalidNumber)
        = .ok rest → rest.length ≤ t.length := by
    intro t ht
    split at ht
    · cases ht
      exact length_dropDigits t
    · cases ht
  split at h
  · have := key _ h
    simp only [List.length_cons]
    omega
  · have := key _ h
    simp only [List.length_cons]
    omega
  · exact key _ h

theorem length_of_skipFraction {s rest : List Char} (h : skipFraction s = .ok rest) :
    rest.length ≤ s.length := by
  unfold skipFraction at h
  split at h
  · rename_i s
    split at h
    · have hd := length_dropDigits s
      split at h
      all_goals first
        | (rename_i he
           have := length_of_skipExponent h
           rw [he] at hd
           simp only [List.length_cons] at hd ⊢
           omega)
        | (cases h
           simp only [List.length_cons]
           omega)
    · cases h
  · have := length_of_skipExponent h
    simp only [List.length_cons]
    omega
  · have := length_of_skipExponent h
    simp only [List.length_cons]
    omega
  · cases h
    exact Nat.le_refl _

theorem length_of_skipNumber {s rest : List Char} (h : skipNumber s = .ok rest) :
    rest.length < s.length := by
  unfold skipNumber at h
  split at h
  · split at h
    · cases h
    · have := length_of_skipFraction h
      simp only [List.length_cons]
      omega
  · split at h
    · have := length_of_skipFraction h
      have := length_dropDigits (by assumption)
      simp only [List.length_cons]
      omega
    · cases h
  · cases h

def skipScalar : List Char → Except Fault (List Char)
  | 'n' :: s => skipWord ['u', 'l', 'l'] s
  | 't' :: s => skipWord ['r', 'u', 'e'] s
  | 'f' :: s => skipWord ['a', 'l', 's', 'e'] s
  | '-' :: s => skipNumber s
  | '"' :: s => skipString s
  | c :: s => if isDigit c then skipNumber (c :: s) else .error .expectedValue
  | [] => .error .endInValue

theorem length_of_skipScalar {s rest : List Char} (h : skipScalar s = .ok rest) :
    rest.length < s.length := by
  unfold skipScalar at h
  split at h
  · have := length_of_skipWord h
    simp only [List.length_cons]
    omega
  · have := length_of_skipWord h
    simp only [List.length_cons]
    omega
  · have := length_of_skipWord h
    simp only [List.length_cons]
    omega
  · have := length_of_skipNumber h
    simp only [List.length_cons]
    omega
  · have := length_of_skipString h
    simp only [List.length_cons]
    omega
  · split at h
    · exact length_of_skipNumber h
    · cases h
  · cases h

def skipKey (s : List Char) : Except Fault (List Char) :=
  match skipString s with
  | .error e => .error e
  | .ok s =>
    match skipBlank s with
    | ':' :: s => .ok s
    | [] => .error .endInObject
    | _ => .error .expectedColon

theorem length_of_skipKey {s rest : List Char} (h : skipKey s = .ok rest) :
    rest.length < s.length := by
  unfold skipKey at h
  split at h
  · cases h
  · rename_i t ht
    have := length_of_skipString ht
    have hb := length_skipBlank t
    split at h
    · rename_i he
      cases h
      rw [he] at hb
      simp only [List.length_cons] at hb
      omega
    · cases h
    · cases h

/-- Passes over what is expected and everything up to the end of the outermost value. -/
def skip (expecting : Expecting) (stack : List Bracket) (s : List Char) :
    Except Fault (List Char) :=
  match expecting, stack with
  | .next, [] => .ok s
  | .opened, [] => .ok s
  | .key, _ =>
    match _h : skipBlank s with
    | '"' :: rest =>
      match _hk : skipKey rest with
      | .error e => .error e
      | .ok rest => skip .value stack rest
    | [] => .error .endInObject
    | _ => .error .keyNotString
  | .value, _ =>
    match _h : skipBlank s with
    | [] => .error .endInValue
    | '[' :: rest => skip .opened (.list :: stack) rest
    | '\x7b' :: rest => skip .opened (.object :: stack) rest
    | c :: rest =>
      match _hs : skipScalar (c :: rest) with
      | .error e => .error e
      | .ok rest => skip .next stack rest
  | .opened, b :: outer =>
    match _h : skipBlank s with
    | [] => .error b.atEnd
    | c :: rest =>
      if c = b.close then skip .next outer rest
      else skip b.item (b :: outer) (c :: rest)
  | .next, b :: outer =>
    match _h : skipBlank s with
    | [] => .error b.atEnd
    | c :: rest =>
      if c = ',' then skip b.item (b :: outer) rest
      else if c = b.close then skip .next outer rest
      else .error b.expected
termination_by (s.length, if expecting = .opened then 1 else 0)
decreasing_by
  all_goals
    have hb := length_skipBlank s
    simp only [_h, List.length_cons] at hb
  · have := length_of_skipKey _hk
    exact Prod.Lex.left _ _ (by omega)
  · exact Prod.Lex.left _ _ (by omega)
  · exact Prod.Lex.left _ _ (by omega)
  · have := length_of_skipScalar _hs
    simp only [List.length_cons] at this
    exact Prod.Lex.left _ _ (by omega)
  · exact Prod.Lex.left _ _ (by omega)
  · rcases Nat.lt_or_ge (rest.length + 1) s.length with hlt | hge
    · exact Prod.Lex.left _ _ (by simpa using hlt)
    · have : s.length = rest.length + 1 := by omega
      rw [this]
      exact Prod.Lex.right _ (by cases b <;> simp [Bracket.item])
  · exact Prod.Lex.left _ _ (by omega)
  · exact Prod.Lex.left _ _ (by omega)

theorem length_of_skip {expecting : Expecting} {stack : List Bracket} {s rest : List Char}
    (h : skip expecting stack s = .ok rest) : rest.length ≤ s.length := by
  fun_induction skip expecting stack s
  case case1 | case2 =>
    cases h
    exact Nat.le_refl _
  case case4 hb _ hk ih =>
    have := length_of_skipBlank hb
    have := length_of_skipKey hk
    have := ih h
    omega
  case case11 hb _ hk ih =>
    have := length_of_skipBlank hb
    have := length_of_skipScalar hk
    have := ih h
    simp only [List.length_cons] at *
    omega
  case case14 hb _ ih =>
    have := length_of_skipBlank hb
    have := ih h
    simp only [List.length_cons] at *
    omega
  case case8 hb ih | case9 hb ih | case13 hb ih | case16 hb ih | case17 hb _ ih =>
    have := length_of_skipBlank hb
    have := ih h
    omega
  all_goals cases h

def skipValue (s : List Char) : Except Fault (List Char) :=
  skip .value [] s

end DisplaySurface.Json
