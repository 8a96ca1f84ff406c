import DisplaySurface.Config.Reader
import DisplaySurface.Proofs.Buffer.UsageText
import DisplaySurface.Proofs.Json.Reading

/-!
The texts of single values, and that their readers take them for what they are. A reader passes over the
blanks in front of a value and stops right behind it, whatever follows.
-/

namespace DisplaySurface.Config

/-- The reader takes this text for this value and nothing of what is around it. -/
def Reads {α : Type} (read : Reader α) (text : List Char) (a : α) : Prop :=
  ∀ gap rest, Json.Blank gap → Json.Ends rest → read (gap ++ (text ++ rest)) = .ok (a, rest)

def UsageText (u : Usage) (text : List Char) : Prop :=
  ∃ s, Json.Spells s text ∧ u.Means s.toList

inductive FormatText (f : PixelFormat) (text : List Char) : Prop
  | name (spelled : Json.Spells f.name text)
  | object (key : List Char) (spelled : Json.Spells f.name key)
      (object : Json.IsObject [⟨key, ['n', 'u', 'l', 'l']⟩] text)

variable {α β : Type} {text : List Char}

theorem reads_word {bound n : Nat} (wide : bound ≤ UInt64.size) (small : n < bound) (expected : Expected) :
    Reads (readWord bound expected) (Json.writeNat n) n := by
  intro gap rest blank ends
  obtain ⟨c, s, digits, digit, number⟩ := Json.readNumber_writeNat (n := n) (by omega) ends
  have fits : fit bound expected (.natural n) = .ok n := if_pos small
  have starts : Json.startsWithDigit (c :: (s ++ rest)) = true := digit
  rw [digits, List.cons_append, readWord]
  simp only [Json.skipBlank_of_solid blank (Json.solid_of_isDigit digit)]
  split
  · rename_i h
    cases h
  · rename_i h
    cases h
    cases digit
  · rw [if_pos starts, number]
    simp only [fits]
    rfl

theorem Reads.map {read : Reader α} {a : α} (reads : Reads read text a) (f : α → β) :
    Reads (fun s => (read s).map fun (a, rest) => (f a, rest)) text (f a) := by
  intro gap rest blank ends
  show (read (gap ++ (text ++ rest))).map _ = _
  rw [reads gap rest blank ends]
  rfl

theorem reads_uint32 (n : UInt32) : Reads readUInt32 (Json.writeNat n.toNat) n := by
  have word := (reads_word (by decide) n.toNat_lt .word32).map UInt32.ofNat
  rwa [UInt32.ofNat_toNat] at word

theorem reads_uint64 (n : UInt64) (expected : Expected) :
    Reads (readUInt64 expected) (Json.writeNat n.toNat) n := by
  have word := (reads_word (Nat.le_refl _) n.toNat_lt expected).map UInt64.ofNat
  rwa [UInt64.ofNat_toNat] at word

theorem reads_text {s : String} (spelled : Json.Spells s text) (expected : Expected) :
    Reads (readText expected) text s := by
  intro gap rest blank _
  obtain ⟨tail, rfl, string⟩ := spelled.read
  rw [List.cons_append, readText]
  simp only [Json.skipBlank_of_solid blank (show Json.isBlank '"' = false from rfl), string]

theorem reads_null (read : Reader α) : Reads (readOption read) ['n', 'u', 'l', 'l'] none := by
  intro gap rest blank _
  rw [List.cons_append, readOption]
  simp only [Json.skipBlank_of_solid blank (show Json.isBlank 'n' = false from rfl)]
  rfl

theorem reads_option {read : Reader α} {number : α → Nat}
    (reads : ∀ a, Reads read (Json.writeNat (number a)) a) (small : ∀ a, number a < UInt64.size)
    (a : Option α) : Reads (readOption read) (Json.writeOption (fun a => Json.writeNat (number a)) a) a := by
  cases a with
  | none => exact reads_null read
  | some a =>
    intro gap rest blank ends
    obtain ⟨c, s, digits, digit, _⟩ := Json.readNumber_writeNat (small a) ends
    have here := reads a [] rest Json.blank_nil ends
    rw [Json.writeOption, digits, List.cons_append, readOption]
    rw [digits, List.nil_append, List.cons_append] at here
    simp only [Json.skipBlank_of_solid blank (Json.solid_of_isDigit digit)]
    split
    · rename_i h
      cases h
      cases digit
    · rw [here]
      rfl

theorem reads_usage {u : Usage} (written : UsageText u text) : Reads readUsage text u := by
  intro gap rest blank ends
  obtain ⟨s, spelled, means⟩ := written
  rw [readUsage, reads_text spelled .usage gap rest blank ends]
  simp only [means.read]

theorem readColon_append {gap : List Char} (blank : Json.Blank gap) (s : List Char) :
    readColon (gap ++ ':' :: s) = .ok s := by
  rw [readColon]
  simp only [Json.skipBlank_of_solid blank (show Json.isBlank ':' = false from rfl)]

theorem reads_nothing : Reads readNothing ['n', 'u', 'l', 'l'] () := by
  intro gap rest blank _
  rw [List.cons_append, readNothing]
  simp only [Json.skipBlank_of_solid blank (show Json.isBlank 'n' = false from rfl)]
  rfl

theorem readFormatName_append {f : PixelFormat} {tail rest : List Char}
    (string : Json.readString (tail ++ rest) = .ok (f.name, rest)) :
    readFormatName (tail ++ rest) = .ok (f, rest) := by
  rw [readFormatName, string]
  simp only [PixelFormat.ofName?_name]

theorem reads_format {f : PixelFormat} (written : FormatText f text) : Reads readFormat text f := by
  intro gap rest blank ends
  cases written with
  | name spelled =>
    obtain ⟨tail, rfl, string⟩ := spelled.read
    rw [List.cons_append, readFormat]
    simp only [Json.skipBlank_of_solid blank (show Json.isBlank '"' = false from rfl),
      readFormatName_append (string rest)]
  | object key spelled object =>
    obtain ⟨tail, rfl, string⟩ := spelled.read
    obtain ⟨body, ⟨texts, members, elements⟩, rfl⟩ := object
    obtain ⟨t, _, member, none, rfl⟩ := List.forall₂_cons_left_iff.mp members
    cases none
    cases elements with
    | one before _ after blank₁ blank₄ =>
      obtain ⟨inner, outer, blank₂, blank₃⟩ := member
      have close := (Json.ends_brace rest).behind blank₄
      have key : readFormatKey (before ++ '"' :: (tail ++ (inner ++ ':' :: (outer ++
          (['n', 'u', 'l', 'l'] ++ (after ++ '\x7d' :: rest)))))) =
          .ok (f, outer ++ (['n', 'u', 'l', 'l'] ++ (after ++ '\x7d' :: rest))) := by
        rw [readFormatKey]
        simp only [Json.skipBlank_of_solid blank₁ (show Json.isBlank '"' = false from rfl),
          readFormatName_append (string _), readColon_append blank₂]
        rfl
      have text : '\x7b' :: (before ++ ('"' :: tail ++ (inner ++ ':' :: (outer ++
          ['n', 'u', 'l', 'l'])) ++ after) ++ ['\x7d']) ++ rest =
          '\x7b' :: (before ++ '"' :: (tail ++ (inner ++ ':' :: (outer ++
            (['n', 'u', 'l', 'l'] ++ (after ++ '\x7d' :: rest)))))) := by simp
      rw [text, readFormat]
      simp only [Json.skipBlank_of_solid blank (show Json.isBlank '\x7b' = false from rfl), key,
        reads_nothing outer _ blank₃ close,
        Json.skipBlank_of_solid blank₄ (show Json.isBlank '\x7d' = false from rfl)]

end DisplaySurface.Config
