import DisplaySurface.Buffer.Usage
import DisplaySurface.Proofs.Text.Numerals

/-!
Usages in text. A text means the union of its words, which may be repeated and padded with white space, and
what is written for a usage means it, with all the bits that have no name.
-/

namespace DisplaySurface

namespace Text

def White (s : List Char) : Prop :=
  ∀ c ∈ s, isBlank c = true

variable {before after w s : List Char}

theorem trimLeft_append (white : White before) (s : List Char) : trimLeft (before ++ s) = trimLeft s := by
  induction before with
  | nil => rfl
  | cons c before ih =>
    obtain ⟨here, later⟩ := List.forall_mem_cons.mp white
    exact (List.dropWhile_cons_of_pos here).trans (ih later)

theorem trimLeft_solid (solid : ∀ c ∈ w, isBlank c = false) (visible : w ≠ []) :
    trimLeft (w ++ s) = w ++ s := by
  cases w with
  | nil => exact absurd rfl visible
  | cons c w => exact List.dropWhile_cons_of_neg (by simp [solid c List.mem_cons_self])

theorem trim_padded (white : White before) (white' : White after) (solid : ∀ c ∈ w, isBlank c = false)
    (visible : w ≠ []) : trim (before ++ (w ++ after)) = w := by
  have turned : White after.reverse := fun c mem => white' c (List.mem_reverse.mp mem)
  have solid' : ∀ c ∈ w.reverse, isBlank c = false := fun c mem => solid c (List.mem_reverse.mp mem)
  have left : trimLeft w.reverse = w.reverse := by
    have whole := trimLeft_solid (s := []) solid' (by simpa using visible)
    rwa [List.append_nil] at whole
  rw [trim, trimLeft_append white, trimLeft_solid solid visible, List.reverse_append,
    trimLeft_append turned, left, List.reverse_reverse]

theorem mem_trimLeft {c : Char} (mem : c ∈ s) (solid : isBlank c = false) : c ∈ trimLeft s := by
  induction s with
  | nil => cases mem
  | cons d s ih =>
    by_cases blank : isBlank d = true
    · have later : c ∈ s := by
        rcases List.mem_cons.mp mem with rfl | later
        · rw [blank] at solid
          cases solid
        · exact later
      have dropped : trimLeft (d :: s) = trimLeft s := List.dropWhile_cons_of_pos blank
      rw [dropped]
      exact ih later
    · have kept : trimLeft (d :: s) = d :: s := List.dropWhile_cons_of_neg blank
      rwa [kept]

theorem trim_ne_nil {c : Char} (mem : c ∈ s) (solid : isBlank c = false) : trim s ≠ [] := by
  have left := List.mem_reverse.mpr (mem_trimLeft mem solid)
  have right := List.mem_reverse.mpr (mem_trimLeft left solid)
  exact List.ne_nil_of_mem right

theorem trim_white (white : White s) : trim s = [] := by
  have left := trimLeft_append white []
  rw [List.append_nil] at left
  rw [trim, left]
  rfl

theorem solid_of_digit {base : Nat} {c : Char} (digit : (digitValue? base c).isSome = true) :
    isBlank c = false ∧ c ≠ '|' := by
  have hex : (hexValue? c).isSome = true := by
    rw [digitValue?] at digit
    exact Option.isSome_of_isSome_filter _ _ digit
  constructor
  · by_contra blank
    simp only [Bool.not_eq_false, isBlank, blankRanges, List.any_cons, List.any_nil, Bool.or_eq_true,
      Bool.and_eq_true, decide_eq_true_eq, Bool.or_false] at blank
    simp only [hexValue?, Char.le_def, UInt32.le_iff_toNat_le] at hex
    simp only [Char.toNat] at blank
    split_ifs at hex <;> simp_all <;> omega
  · rintro rfl
    cases hex

end Text

namespace Usage

inductive Word : List Char → UInt64 → Prop
  | name (name : String) (bit : UInt64) (known : (name, bit) ∈ named) : Word name.toList bit
  | number (sign ds : List Char) (n : Nat) (signed : sign = [] ∨ sign = ['+']) (visible : ds ≠ [])
      (value : Text.numeral? 16 0 ds = some n) (small : n < UInt64.size) :
      Word ('0' :: 'x' :: (sign ++ ds)) (UInt64.ofNat n)

inductive Words : List Char → UInt64 → Prop
  | one (before word after : List Char) (bits : UInt64) (white : Text.White before)
      (white' : Text.White after) (isWord : Word word bits) : Words (before ++ (word ++ after)) bits
  | more (before word after rest : List Char) (bits others : UInt64) (white : Text.White before)
      (white' : Text.White after) (isWord : Word word bits) (later : Words rest others) :
      Words (before ++ (word ++ (after ++ '|' :: rest))) (bits ||| others)

inductive Means (u : Usage) (text : List Char) : Prop
  | none (white : Text.White text) (empty : u.bits = 0)
  | words (words : Words text u.bits)

section Reading

variable {word text : List Char} {bits : UInt64}

theorem Word.solid (h : Word word bits) :
    word ≠ [] ∧ ∀ c ∈ word, Text.isBlank c = false ∧ c ≠ '|' := by
  cases h with
  | name name bit known =>
    have visible : ∀ p ∈ named, p.1.toList ≠ [] := by decide
    have table : ∀ p ∈ named, p.1.toList.all (fun c => !Text.isBlank c && c != '|') = true := by
      decide +kernel
    refine ⟨visible _ known, fun c mem => ?_⟩
    simpa using List.all_eq_true.mp (table _ known) c mem
  | number sign ds n signed visible value small =>
    refine ⟨List.cons_ne_nil _ _, fun c mem => ?_⟩
    rcases List.mem_cons.mp mem with rfl | mem
    · decide
    rcases List.mem_cons.mp mem with rfl | mem
    · decide
    rcases List.mem_append.mp mem with mem | mem
    · rcases signed with rfl | rfl
      · cases mem
      · rw [List.mem_singleton.mp mem]
        decide
    · exact Text.solid_of_digit (Text.digitValue?_of_numeral? value mem)

theorem Word.read (h : Word word bits) : readWord word = .ok ⟨bits⟩ := by
  cases h with
  | name name bit known =>
    have table : ∀ p ∈ named, readWord p.1.toList = .ok ⟨p.2⟩ := by decide
    exact table _ known
  | number sign ds n signed visible value small =>
    obtain ⟨plain, plus⟩ := Text.readDigits_of_numeral? (by decide) visible value small
    rcases signed with rfl | rfl
    · simp only [List.nil_append, readWord, plain]
    · simp only [List.singleton_append, readWord, plus]

theorem Word.trimmed (h : Word word bits) {before after : List Char} (white : Text.White before)
    (white' : Text.White after) : Text.trim (before ++ (word ++ after)) = word := by
  obtain ⟨visible, solid⟩ := h.solid
  exact Text.trim_padded white white' (fun c mem => (solid c mem).1) visible

theorem Word.unbarred (h : Word word bits) {before after : List Char} (white : Text.White before)
    (white' : Text.White after) : '|' ∉ before ++ (word ++ after) := by
  have blank {s : List Char} (white : Text.White s) : '|' ∉ s := by
    intro mem
    have no := white '|' mem
    cases no
  intro mem
  rcases List.mem_append.mp mem with mem | mem
  · exact blank white mem
  · rcases List.mem_append.mp mem with mem | mem
    · exact (h.solid.2 _ mem).2 rfl
    · exact blank white' mem

theorem Words.read (h : Words text bits) (u : Usage) :
    readWords u (text.splitOn '|') = .ok ⟨u.bits ||| bits⟩ := by
  induction h generalizing u with
  | one before word after bits white white' isWord =>
    rw [List.splitOn_eq_singleton (isWord.unbarred white white'), readWords,
      isWord.trimmed white white', isWord.read]
    rfl
  | more before word after rest bits others white white' isWord later ih =>
    have split : before ++ (word ++ (after ++ '|' :: rest)) =
        (before ++ (word ++ after)) ++ '|' :: rest := by simp
    rw [split, List.splitOn_append_cons_self_of_not_mem (isWord.unbarred white white'), readWords,
      isWord.trimmed white white', isWord.read]
    refine (ih (u.union ⟨bits⟩)).trans ?_
    rw [union, UInt64.or_assoc]

theorem Words.solid (h : Words text bits) : ∃ c ∈ text, Text.isBlank c = false := by
  have first {word : List Char} {bits : UInt64} (isWord : Word word bits) :
      ∃ c ∈ word, Text.isBlank c = false := by
    obtain ⟨visible, solid⟩ := isWord.solid
    obtain ⟨c, mem⟩ := List.exists_mem_of_ne_nil word visible
    exact ⟨c, mem, (solid c mem).1⟩
  cases h with
  | one before word after bits _ _ isWord | more before word after rest bits others _ _ isWord =>
    obtain ⟨c, mem, solid⟩ := first isWord
    exact ⟨c, by simp [mem], solid⟩

theorem Means.read {u : Usage} (h : Means u text) : Usage.read text = .ok u := by
  cases h with
  | none white empty =>
    rw [Usage.read, Text.trim_white white]
    cases u
    cases empty
    rfl
  | words words =>
    obtain ⟨c, mem, solid⟩ := words.solid
    have visible : (Text.trim text).isEmpty = false := by
      rw [List.isEmpty_eq_false_iff]
      exact Text.trim_ne_nil mem solid
    rw [Usage.read, visible, if_neg (by simp), words.read, Usage.none, UInt64.zero_or]

end Reading

section Writing

variable (u : Usage)

theorem Words.behind {gap text : List Char} {bits : UInt64} (white : Text.White gap)
    (h : Words text bits) : Words (gap ++ text) bits := by
  cases h with
  | one before word after bits white' white'' isWord =>
    rw [← List.append_assoc]
    exact .one _ _ _ _ (List.forall_mem_append.mpr ⟨white, white'⟩) white'' isWord
  | more before word after rest bits others white' white'' isWord later =>
    rw [← List.append_assoc]
    exact .more _ _ _ _ _ _ (List.forall_mem_append.mpr ⟨white, white'⟩) white'' isWord later

def parts : List (List Char × UInt64) :=
  (named.filter fun (_, bit) => u.bits &&& bit == bit).map (fun (name, bit) => (name.toList, bit))
    ++ if u.unnamed = 0 then [] else [('0' :: 'x' :: Text.writeDigits 16 u.unnamed.toNat, u.unnamed)]

theorem words_eq_parts : u.words = u.parts.map Prod.fst := by
  rw [words, parts, List.map_append, List.map_map]
  congr 1
  by_cases rest : u.unnamed = 0
  · rw [if_pos rest, if_pos rest]
    rfl
  · rw [if_neg rest, if_neg rest]
    rfl

theorem parts_words {p : List Char × UInt64} (mem : p ∈ u.parts) : Word p.1 p.2 := by
  rcases List.mem_append.mp mem with mem | mem
  · obtain ⟨⟨name, bit⟩, known, rfl⟩ := List.mem_map.mp mem
    exact .name name bit (List.mem_filter.mp known).1
  · by_cases rest : u.unnamed = 0
    · rw [if_pos rest] at mem
      cases mem
    · rw [if_neg rest, List.mem_singleton] at mem
      subst mem
      have sixteen : 1 < 16 := by decide
      have digits := Text.numeral?_writeDigits sixteen (by decide) u.unnamed.toNat
      have isWord := Word.number [] (Text.writeDigits 16 u.unnamed.toNat) _ (.inl rfl)
        Nat.toDigits_ne_nil digits u.unnamed.toNat_lt
      rwa [UInt64.ofNat_toNat] at isWord

theorem words_of_parts {ps : List (List Char × UInt64)} (areWords : ∀ p ∈ ps, Word p.1 p.2)
    (visible : ps ≠ []) :
    Words ([' ', '|', ' '].intercalate (ps.map Prod.fst)) (ps.foldr (fun p bits => p.2 ||| bits) 0) := by
  induction ps with
  | nil => exact absurd rfl visible
  | cons p ps ih =>
    obtain ⟨isWord, areWords'⟩ := List.forall_mem_cons.mp areWords
    cases ps with
    | nil =>
      have alone := Words.one [] p.1 [] p.2 (by simp [Text.White]) (by simp [Text.White]) isWord
      simpa using alone
    | cons q ps =>
      have blank : Text.White [' '] := by
        intro c mem
        rw [List.mem_singleton.mp mem]
        decide
      have later := (ih areWords' (List.cons_ne_nil q ps)).behind blank
      have all := Words.more [] p.1 [' '] _ p.2 _ (by simp [Text.White]) blank isWord later
      rw [List.map_cons, List.map_cons, List.intercalate_cons_cons]
      simpa using all

/-- A named bit is in a usage as a whole or not at all. -/
theorem single_bit {name : String} {bit : UInt64} (known : (name, bit) ∈ named) (x : UInt64) :
    x &&& bit = 0 ∨ x &&& bit = bit := by
  have power : ∀ p ∈ named, ∃ i < 5, p.2.toBitVec = BitVec.twoPow 64 i := by decide
  obtain ⟨i, -, twoPow⟩ := power _ known
  replace twoPow : bit.toBitVec = BitVec.twoPow 64 i := twoPow
  rw [← UInt64.toBitVec_inj, ← UInt64.toBitVec_inj, UInt64.toBitVec_and, twoPow, BitVec.and_twoPow]
  by_cases set : x.toBitVec.getLsbD i = true
  · exact .inr (if_pos set)
  · exact .inl (if_neg set)

/-- Nothing is lost where bits are taken out one by one and what is left is added. -/
theorem bits_restored (x a b c d e : UInt64) :
    (x &&& a) ||| ((x &&& b) ||| ((x &&& c) ||| ((x &&& d) ||| ((x &&& e) |||
      (x &&& ~~~a &&& ~~~b &&& ~~~c &&& ~~~d &&& ~~~e))))) = x := by
  have table : ∀ x a b c d e : Bool, (x && a || (x && b || (x && c || (x && d || (x && e ||
      (x && !a && !b && !c && !d && !e)))))) = x := by decide
  rw [← UInt64.toBitVec_inj]
  ext i bound
  simpa [bound] using table x.toBitVec[i] a.toBitVec[i] b.toBitVec[i] c.toBitVec[i] d.toBitVec[i]
    e.toBitVec[i]

theorem parts_bits : u.parts.foldr (fun p bits => p.2 ||| bits) 0 = u.bits := by
  have kept : ∀ p ∈ named, ∀ rest : UInt64,
      (if (u.bits &&& p.2 == p.2) = true then p.2 ||| rest else rest) = u.bits &&& p.2 ||| rest := by
    intro p known rest
    by_cases whole : u.bits &&& p.2 = p.2
    · simp [whole]
    · have none := (single_bit known u.bits).resolve_right whole
      rw [if_neg (by simpa using whole), none, UInt64.zero_or]
  have left : List.foldr (fun p bits => p.2 ||| bits) 0 (if u.unnamed = 0 then [] else
      [('0' :: 'x' :: Text.writeDigits 16 u.unnamed.toNat, u.unnamed)]) = u.unnamed := by
    by_cases rest : u.unnamed = 0 <;> simp [rest]
  rw [parts, List.foldr_append, left, List.foldr_map, List.foldr_filter]
  exact (List.foldr_ext _ _ _ kept).trans (bits_restored u.bits 1 2 4 8 16)

theorem means_write : Means u u.write := by
  rw [write, words_eq_parts]
  by_cases visible : u.parts = []
  · have bits := u.parts_bits
    rw [visible] at bits ⊢
    exact .none (by simp [Text.White]) bits.symm
  · have words := words_of_parts (fun _ => u.parts_words) visible
    rw [parts_bits] at words
    exact .words words

end Writing

end Usage

end DisplaySurface
