import DisplaySurface.Json.Written
import DisplaySurface.Proofs.Json.Skipping
import DisplaySurface.Proofs.Text.Numerals

/-!
Reading strings and whole numbers. However a string is spelled, it is read as what it stands for; what is
written is one of the spellings, also where it holds controls, quotation marks and backslashes.
-/

namespace DisplaySurface.Json

section Strings

variable {before : List Char} {c : Char} {cs text body : List Char}

theorem not_surrogate (c : Char) : ¬ (0xD800 ≤ c.toNat ∧ c.toNat ≤ 0xDFFF) := by
  have valid := c.valid
  simp only [UInt32.isValidChar, Nat.isValidChar] at valid
  simp only [Char.toNat]
  omega

theorem readEscape_letter {letter : Char} (known : (letter, c) ∈ escapes) (s : List Char) :
    readEscape (letter :: s) = .ok (c, s) := by
  simp only [escapes, List.mem_cons, Prod.mk.injEq, List.not_mem_nil, or_false] at known
  rcases known with h | h | h | h | h | h | h | h <;> obtain ⟨rfl, rfl⟩ := h <;> rfl

theorem readEscape_number {ds : List Char} (value : Hex4 ds c.toNat) (s : List Char) :
    readEscape ('u' :: (ds ++ s)) = .ok (c, s) := by
  have alone := not_surrogate c
  simp only [readEscape, readHex4_append value]
  rw [if_neg (by omega), if_neg (by omega), Char.ofNat_toNat]

theorem readEscape_pair {ds es : List Char} {high low : Nat} (first : Hex4 ds high) (second : Hex4 es low)
    (isHigh : 0xD800 ≤ high ∧ high ≤ 0xDBFF) (isLow : 0xDC00 ≤ low ∧ low ≤ 0xDFFF)
    (value : c.toNat = (high - 0xD800) * 0x400 + (low - 0xDC00) + 0x10000) (s : List Char) :
    readEscape ('u' :: (ds ++ '\\' :: 'u' :: (es ++ s))) = .ok (c, s) := by
  have lower : readLowSurrogate high ('\\' :: 'u' :: (es ++ s)) = .ok (c, s) := by
    simp only [readLowSurrogate, readHex4_append second]
    rw [if_pos isLow, ← value, Char.ofNat_toNat]
  simp only [readEscape, readHex4_append first]
  rw [if_neg (by omega), if_pos isHigh, lower]

theorem readStringFrom_char (spelled : SpellsChar c text) (s : List Char) :
    readStringFrom before (text ++ s) = readStringFrom (c :: before) s := by
  cases spelled with
  | plain c plain =>
    obtain ⟨shown, quote, slash⟩ := plain
    rw [List.singleton_append, readStringFrom]
    · rw [if_neg (by omega)]
    · exact quote
    · exact slash
  | escape letter c known =>
    rw [List.cons_append, List.singleton_append, readStringFrom, readEscape_letter known]
  | number c ds value =>
    rw [List.cons_append, List.cons_append, readStringFrom, readEscape_number value]
  | pair c ds es high low first second isHigh isLow value =>
    have escaped := readEscape_pair first second isHigh isLow value s
    rw [List.cons_append, List.cons_append, List.append_assoc, List.cons_append, List.cons_append,
      readStringFrom, escaped]

theorem readStringFrom_append (spelled : SpellsChars cs body) (before rest : List Char) :
    readStringFrom before (body ++ '"' :: rest) = .ok (String.ofList (before.reverse ++ cs), rest) := by
  induction spelled generalizing before with
  | nil => rw [List.nil_append, readStringFrom, List.append_nil]
  | cons first later ih =>
    rw [List.append_assoc, readStringFrom_char first, ih, List.reverse_cons, List.append_assoc,
      List.singleton_append]

theorem Spells.read {s : String} (spelled : Spells s text) : ∃ tail, text = '"' :: tail ∧
    ∀ rest, readString (tail ++ rest) = .ok (s, rest) := by
  obtain ⟨body, chars, rfl⟩ := spelled
  refine ⟨body ++ ['"'], rfl, fun rest => ?_⟩
  rw [List.append_assoc, readString]
  refine (readStringFrom_append chars [] rest).trans ?_
  rw [List.reverse_nil, List.nil_append, String.ofList_toList]

theorem spellsChar_writeChar (c : Char) : SpellsChar c (writeChar c) := by
  have escaped {letter : Char} (here : (letter, c) ∈ escapes) : SpellsChar c ['\\', letter] :=
    .escape letter c here
  unfold writeChar
  split_ifs with quote slash back feed line turn tab control
  · exact escaped (by rw [quote]; decide)
  · exact escaped (by rw [slash]; decide)
  · exact escaped (by rw [back]; decide)
  · exact escaped (by rw [feed]; decide)
  · exact escaped (by rw [line]; decide)
  · exact escaped (by rw [turn]; decide)
  · exact escaped (by rw [tab]; decide)
  · refine .number c _ ⟨'0', '0', _, _, 0, 0, c.toNat / 16, c.toNat % 16, rfl, rfl, rfl,
      Text.hexValue?_digitChar (by omega), Text.hexValue?_digitChar (by omega), by omega⟩
  · exact .plain c ⟨by omega, quote, slash⟩

theorem spellsChars_writeChar (cs : List Char) : SpellsChars cs (cs.flatMap writeChar) := by
  induction cs with
  | nil => exact .nil
  | cons c cs ih =>
    rw [List.flatMap_cons]
    exact .cons (spellsChar_writeChar c) ih

theorem spells_writeString (s : String) : Spells s (writeString s) :=
  ⟨_, spellsChars_writeChar s.toList, rfl⟩

end Strings

section Objects

theorem members_writeMembers (members : List (String × List Char)) :
    Members (members.map fun p => ⟨writeString p.1, p.2⟩) (writeMembers members) := by
  induction members with
  | nil => exact ⟨[], .nil, .none [] blank_nil⟩
  | cons p members ih =>
    obtain ⟨key, value⟩ := p
    have member : Member.Text ⟨writeString key, value⟩ (writeString key ++ ':' :: value) :=
      .mk [] [] blank_nil blank_nil
    obtain ⟨texts, written, elements⟩ := ih
    cases members with
    | nil =>
      have alone := Elements.one [] (writeString key ++ ':' :: value) [] blank_nil blank_nil
      rw [List.nil_append, List.append_nil] at alone
      exact ⟨_, .cons member .nil, alone⟩
    | cons q members =>
      cases written with
      | cons next others =>
        exact ⟨_, .cons member (.cons next others),
          .more [] _ [] _ _ _ blank_nil blank_nil elements⟩

theorem isObject_writeObject (members : List (String × List Char)) :
    IsObject (members.map fun p => ⟨writeString p.1, p.2⟩) (writeObject members) :=
  ⟨_, members_writeMembers members, rfl⟩

end Objects

section Numbers

variable {rest ds : List Char} {n m : Nat}

theorem takeDigits_append (h : Text.numeral? 10 n ds = some m) (small : m < UInt64.size)
    (stop : startsWithDigit rest = false) (taken : Nat) :
    takeDigits n taken (ds ++ rest) = (m, taken + ds.length, rest) := by
  induction ds generalizing n taken with
  | nil =>
    cases h
    cases rest with
    | nil => rfl
    | cons c s =>
      have other : digit? c = none := by
        simpa [startsWithDigit, isDigit] using stop
      rw [List.nil_append, takeDigits, other]
      rfl
  | cons c ds ih =>
    cases digit : Text.digitValue? 10 c with
    | none => simp [Text.numeral?, digit] at h
    | some v =>
      rw [Text.numeral?_cons digit] at h
      have least := Text.le_of_numeral? (by decide) h
      have here : digit? c = some v := digit
      rw [List.cons_append, takeDigits, here]
      simp only [show n * 10 + v < UInt64.size by omega, if_true]
      rw [ih h, List.length_cons]
      simp only [Prod.mk.injEq, true_and, and_true]
      omega

theorem readNumber_writeNat (small : n < UInt64.size) (ends : Ends rest) :
    ∃ c s, writeNat n = c :: s ∧ isDigit c = true ∧
      readNumber true (c :: (s ++ rest)) = .ok (.natural n, rest) := by
  have ten : 1 < 10 := by decide
  have value := Text.numeral?_writeDigits ten (by decide) n
  obtain ⟨v, s, digits, most, zero⟩ := Text.writeDigits_head ten n
  have digit := Text.digitValue?_digitChar 10 (by decide) most
  have here : digit? (Nat.digitChar v) = some v := digit
  rw [digits, Text.numeral?_cons digit, Nat.zero_mul, Nat.zero_add] at value
  refine ⟨_, s, digits, by simp [isDigit, here], ?_⟩
  have single : ¬ (v = 0 ∧ startsWithDigit (s ++ rest) = true) := by
    rintro ⟨first, more⟩
    rw [zero first, List.nil_append, ends.startsWithDigit] at more
    cases more
  simp only [readNumber, here, if_neg single, takeDigits_append value small ends.startsWithDigit,
    ends.startsWithDigit, Bool.false_eq_true, if_false]
  split
  · rename_i t
    exact absurd rfl (ends _ t rfl).2.1
  · rename_i t
    exact absurd rfl (ends _ t rfl).2.2.1
  · rename_i t
    exact absurd rfl (ends _ t rfl).2.2.2
  · rfl

end Numbers

end DisplaySurface.Json
