import DisplaySurface.Json.Lexeme
import Mathlib

/-!
The grammar of JSON documents, and which texts stand for a string. It says what a document may look like
without saying how one is read: blanks may stand around every part of it, and a character of a string may
be written in several ways.
-/

namespace DisplaySurface.Json

def Blank (s : List Char) : Prop :=
  ∀ c ∈ s, isBlank c = true

def Digits (s : List Char) : Prop :=
  s ≠ [] ∧ ∀ c ∈ s, c.isDigit = true

inductive Whole : List Char → Prop
  | zero : Whole ['0']
  | other (c : Char) (ds : List Char) (nonzero : c ≠ '0') (digits : Digits (c :: ds)) : Whole (c :: ds)

inductive Fraction : List Char → Prop
  | none : Fraction []
  | some (ds : List Char) (digits : Digits ds) : Fraction ('.' :: ds)

inductive Exponent : List Char → Prop
  | none : Exponent []
  | some (mark : Char) (sign ds : List Char) (letter : mark = 'e' ∨ mark = 'E')
      (signed : sign = [] ∨ sign = ['+'] ∨ sign = ['-']) (digits : Digits ds) :
      Exponent (mark :: (sign ++ ds))

inductive IsNumber : List Char → Prop
  | mk (sign whole fraction exponent : List Char) (signed : sign = [] ∨ sign = ['-'])
      (isWhole : Whole whole) (isFraction : Fraction fraction) (isExponent : Exponent exponent) :
      IsNumber (sign ++ (whole ++ (fraction ++ exponent)))

def Hex4 (ds : List Char) (n : Nat) : Prop :=
  ∃ a b c d x y z w, ds = [a, b, c, d] ∧ Text.hexValue? a = some x ∧ Text.hexValue? b = some y ∧
    Text.hexValue? c = some z ∧ Text.hexValue? d = some w ∧ n = ((x * 16 + y) * 16 + z) * 16 + w

/-- A character that stands for itself in a string. -/
def IsPlain (c : Char) : Prop :=
  0x20 ≤ c.toNat ∧ c ≠ '"' ∧ c ≠ '\\'

def escapes : List (Char × Char) :=
  [('"', '"'), ('\\', '\\'), ('/', '/'), ('b', '\x08'), ('f', '\x0c'), ('n', '\n'), ('r', '\r'),
   ('t', '\t')]

/-- The texts that stand for a character of a string. One beyond the first 65536 can be written as a pair of
surrogates. -/
inductive SpellsChar : Char → List Char → Prop
  | plain (c : Char) (plain : IsPlain c) : SpellsChar c [c]
  | escape (letter c : Char) (known : (letter, c) ∈ escapes) : SpellsChar c ['\\', letter]
  | number (c : Char) (ds : List Char) (value : Hex4 ds c.toNat) : SpellsChar c ('\\' :: 'u' :: ds)
  | pair (c : Char) (ds es : List Char) (high low : Nat) (first : Hex4 ds high) (second : Hex4 es low)
      (isHigh : 0xD800 ≤ high ∧ high ≤ 0xDBFF) (isLow : 0xDC00 ≤ low ∧ low ≤ 0xDFFF)
      (value : c.toNat = (high - 0xD800) * 0x400 + (low - 0xDC00) + 0x10000) :
      SpellsChar c ('\\' :: 'u' :: (ds ++ '\\' :: 'u' :: es))

inductive SpellsChars : List Char → List Char → Prop
  | nil : SpellsChars [] []
  | cons {c : Char} {cs text rest : List Char} (first : SpellsChar c text) (later : SpellsChars cs rest) :
      SpellsChars (c :: cs) (text ++ rest)

def Spells (s : String) (text : List Char) : Prop :=
  ∃ body, SpellsChars s.toList body ∧ text = '"' :: (body ++ ['"'])

/-- What a string consists of. A surrogate need not have a partner. -/
inductive IsStroke : List Char → Prop
  | plain (c : Char) (plain : IsPlain c) : IsStroke [c]
  | escape (letter c : Char) (known : (letter, c) ∈ escapes) : IsStroke ['\\', letter]
  | number (ds : List Char) (n : Nat) (value : Hex4 ds n) : IsStroke ('\\' :: 'u' :: ds)

inductive AreStrokes : List Char → Prop
  | nil : AreStrokes []
  | cons {text rest : List Char} (first : IsStroke text) (later : AreStrokes rest) :
      AreStrokes (text ++ rest)

def IsString (text : List Char) : Prop :=
  ∃ body, AreStrokes body ∧ text = '"' :: (body ++ ['"'])

inductive Elements : List (List Char) → List Char → Prop
  | none (gap : List Char) (blank : Blank gap) : Elements [] gap
  | one (before value after : List Char) (blank : Blank before) (blank' : Blank after) :
      Elements [value] (before ++ (value ++ after))
  | more (before value after next : List Char) (values : List (List Char)) (rest : List Char)
      (blank : Blank before) (blank' : Blank after) (later : Elements (next :: values) rest) :
      Elements (value :: next :: values) (before ++ (value ++ (after ++ ',' :: rest)))

structure Member where
  key : List Char
  value : List Char

inductive Member.Text (m : Member) : List Char → Prop
  | mk (before after : List Char) (blank : Blank before) (blank' : Blank after) :
      Text m (m.key ++ (before ++ ':' :: (after ++ m.value)))

def Members (ms : List Member) (body : List Char) : Prop :=
  ∃ texts, List.Forall₂ Member.Text ms texts ∧ Elements texts body

def IsObject (ms : List Member) (text : List Char) : Prop :=
  ∃ body, Members ms body ∧ text = '\x7b' :: (body ++ ['\x7d'])

inductive IsValue : List Char → Prop
  | null : IsValue ['n', 'u', 'l', 'l']
  | yes : IsValue ['t', 'r', 'u', 'e']
  | no : IsValue ['f', 'a', 'l', 's', 'e']
  | number (text : List Char) (number : IsNumber text) : IsValue text
  | string (text : List Char) (string : IsString text) : IsValue text
  | list (values : List (List Char)) (body : List Char) (elements : Elements values body)
      (each : ∀ value ∈ values, IsValue value) : IsValue ('[' :: (body ++ [']']))
  | object (ms : List Member) (body : List Char) (members : Members ms body)
      (keys : ∀ m ∈ ms, IsString m.key) (each : ∀ m ∈ ms, IsValue m.value) :
      IsValue ('\x7b' :: (body ++ ['\x7d']))

theorem blank_nil : Blank [] := by
  intro c mem
  cases mem

end DisplaySurface.Json
