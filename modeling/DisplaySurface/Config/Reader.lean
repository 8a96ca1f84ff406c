import DisplaySurface.Config.Error
import DisplaySurface.Json.Skip

/-!
Reading typed values out of JSON text, in one pass from left to right: the first thing that is wrong
decides the error. A section is an object with the section's fields in any order, or a list of their
values in the order of the fields; what is left out keeps its value. Members of an object that are no
fields are passed over.
-/

namespace DisplaySurface.Config

abbrev Reader (α : Type) := List Char → Except ReadError (α × List Char)

def fail {α : Type} (fault : Json.Fault) : Except ReadError α :=
  .error (.malformed fault)

def wrongKind (expected : Expected) (s : List Char) : ReadError :=
  let found : Except Json.Fault Found :=
    match s with
    | 'n' :: s => (Json.skipWord ['u', 'l', 'l'] s).map fun _ => .null
    | 't' :: s => (Json.skipWord ['r', 'u', 'e'] s).map fun _ => .boolean true
    | 'f' :: s => (Json.skipWord ['a', 'l', 's', 'e'] s).map fun _ => .boolean false
    | '-' :: s => (Json.readNumber false s).map fun (n, _) => .ofNumber n
    | '"' :: s => (Json.readString s).map fun (t, _) => .text t
    | '[' :: _ => .ok .list
    | '\x7b' :: _ => .ok .object
    | s =>
      if Json.startsWithDigit s then (Json.readNumber true s).map fun (n, _) => .ofNumber n
      else .error .expectedValue
  match found with
  | .ok found => .wrongKind found expected
  | .error fault => .malformed fault

def fit (bound : Nat) (expected : Expected) : Json.Number → Except ReadError Nat
  | .natural n => if n < bound then .ok n else .error (.outOfRange n expected)
  | .negative n => .error (.outOfRange (-n) expected)
  | .double x => .error (.wrongKind (.double x) expected)

def readWord (bound : Nat) (expected : Expected) : Reader Nat := fun s =>
  let number : Json.Number × List Char → Except ReadError (Nat × List Char) := fun (n, rest) =>
    (fit bound expected n).map (·, rest)
  match Json.skipBlank s with
  | [] => fail .endInValue
  | '-' :: s =>
    match Json.readNumber false s with
    | .ok r => number r
    | .error fault => fail fault
  | s =>
    if Json.startsWithDigit s then
      match Json.readNumber true s with
      | .ok r => number r
      | .error fault => fail fault
    else .error (wrongKind expected s)

def readUInt32 : Reader UInt32 := fun s =>
  (readWord UInt32.size .word32 s).map fun (n, rest) => (UInt32.ofNat n, rest)

def readUInt64 (expected : Expected) : Reader UInt64 := fun s =>
  (readWord UInt64.size expected s).map fun (n, rest) => (UInt64.ofNat n, rest)

def readText (expected : Expected) : Reader String := fun s =>
  match Json.skipBlank s with
  | [] => fail .endInValue
  | '"' :: s =>
    match Json.readString s with
    | .ok r => .ok r
    | .error fault => fail fault
  | s => .error (wrongKind expected s)

def readOption {α : Type} (read : Reader α) : Reader (Option α) := fun s =>
  match Json.skipBlank s with
  | 'n' :: s =>
    match Json.skipWord ['u', 'l', 'l'] s with
    | .ok rest => .ok (none, rest)
    | .error fault => fail fault
  | s => (read s).map fun (a, rest) => (some a, rest)

def readNothing : Reader Unit := fun s =>
  match Json.skipBlank s with
  | [] => fail .endInValue
  | 'n' :: s =>
    match Json.skipWord ['u', 'l', 'l'] s with
    | .ok rest => .ok ((), rest)
    | .error fault => fail fault
  | s => .error (wrongKind .nothing s)

def readColon (s : List Char) : Except ReadError (List Char) :=
  match Json.skipBlank s with
  | ':' :: rest => .ok rest
  | [] => fail .endInObject
  | _ => fail .expectedColon

def readUsage : Reader Usage := fun s =>
  match readText .usage s with
  | .error e => .error e
  | .ok (text, rest) =>
    match Usage.read text.toList with
    | .ok usage => .ok (usage, rest)
    | .error e => .error (.badUsage e)

def readFormatName : Reader PixelFormat := fun s =>
  match Json.readString s with
  | .error fault => fail fault
  | .ok (name, rest) =>
    match PixelFormat.ofName? name with
    | some format => .ok (format, rest)
    | none => .error (.unknownFormat name)

def readFormatKey : Reader PixelFormat := fun s =>
  match Json.skipBlank s with
  | '"' :: s =>
    match readFormatName s with
    | .error e => .error e
    | .ok (format, s) => (readColon s).map (format, ·)
  | '\x7d' :: _ => fail .expectedValue
  | [] => fail .endInObject
  | _ => fail .keyNotString

def readFormat : Reader PixelFormat := fun s =>
  match Json.skipBlank s with
  | [] => fail .endInValue
  | '"' :: s => readFormatName s
  | '\x7b' :: s =>
    match readFormatKey s with
    | .error e => .error e
    | .ok (format, s) =>
      match readNothing s with
      | .error e => .error e
      | .ok ((), s) =>
        match Json.skipBlank s with
        | '\x7d' :: rest => .ok (format, rest)
        | [] => fail .endInObject
        | _ => fail .expectedValue
  | _ => fail .expectedValue

structure Field (α : Type) where
  name : String
  read : α → Reader α

/-- What follows a member: the end of the object, with the text behind it, or another key, with the text
behind its quotation mark. -/
def nextKey (first : Bool) (s : List Char) : Except Json.Fault (List Char ⊕ List Char) :=
  match Json.skipBlank s with
  | [] => .error .endInObject
  | '\x7d' :: rest => .ok (.inl rest)
  | c :: rest =>
    if first then if c = '"' then .ok (.inr rest) else .error .keyNotString
    else if c ≠ ',' then .error .expectedObjectEnd
    else
      match Json.skipBlank rest with
      | '"' :: rest => .ok (.inr rest)
      | '\x7d' :: _ => .error .trailingComma
      | [] => .error .endInValue
      | _ => .error .keyNotString

def nextElement (first : Bool) (s : List Char) : Except Json.Fault (List Char ⊕ List Char) :=
  match Json.skipBlank s with
  | [] => .error .endInList
  | ']' :: rest => .ok (.inl rest)
  | c :: rest =>
    if first then .ok (.inr (c :: rest))
    else if c ≠ ',' then .error .expectedListEnd
    else
      match Json.skipBlank rest with
      | ']' :: _ => .error .trailingComma
      | [] => .error .endInValue
      | s => .ok (.inr s)

def endList (s : List Char) : Except Json.Fault (List Char) :=
  match Json.skipBlank s with
  | ']' :: rest => .ok rest
  | ',' :: rest =>
    match Json.skipBlank rest with
    | ']' :: _ => .error .trailingComma
    | _ => .error .trailingCharacters
  | [] => .error .endInList
  | _ => .error .trailingCharacters

theorem length_of_nextKey {first : Bool} {s rest : List Char}
    (h : nextKey first s = .ok (.inr rest)) : rest.length < s.length := by
  unfold nextKey at h
  have hb := Json.length_skipBlank s
  split at h
  · cases h
  · cases h
  · rename_i c t _ he
    rw [he] at hb
    simp only [List.length_cons] at hb
    split at h
    · split at h
      · cases h
        omega
      · cases h
    · split at h
      · cases h
      · have ht := Json.length_skipBlank t
        split at h
        · rename_i hr
          cases h
          rw [hr] at ht
          simp only [List.length_cons] at ht
          omega
        · cases h
        · cases h
        · cases h

theorem length_of_readColon {s rest : List Char} (h : readColon s = .ok rest) :
    rest.length < s.length := by
  unfold readColon at h
  have hb := Json.length_skipBlank s
  split at h
  · rename_i he
    cases h
    rw [he] at hb
    simp only [List.length_cons] at hb
    omega
  · cases h
  · cases h

/-- The members of an object. Each field is read at most once, so what is left of the fields, and of the
text where a member is passed over, becomes less. -/
def readMembers {α : Type} (fields unread : List (Field α)) (first : Bool) (a : α)
    (s : List Char) : Except ReadError (α × List Char) :=
  match _hk : nextKey first s with
  | .error fault => fail fault
  | .ok (.inl rest) => .ok (a, rest)
  | .ok (.inr s₁) =>
    match _hr : Json.readString s₁ with
    | .error fault => fail fault
    | .ok (key, s₂) =>
      match _hf : unread.find? (·.name = key) with
      | some field =>
        match readColon s₂ with
        | .error e => .error e
        | .ok s₃ =>
          match field.read a s₃ with
          | .error e => .error e
          | .ok (a, s₄) => readMembers fields (unread.eraseP (·.name = key)) false a s₄
      | none =>
        if fields.any (·.name = key) then .error (.duplicateField key)
        else
          match _hc : readColon s₂ with
          | .error e => .error e
          | .ok s₃ =>
            match _hv : Json.skipValue s₃ with
            | .error fault => fail fault
            | .ok s₄ => readMembers fields unread false a s₄
termination_by (unread.length, s.length)
decreasing_by
  · have hmem := List.mem_of_find?_eq_some _hf
    have hname := List.find?_some _hf
    have := List.length_eraseP_of_mem (p := (decide <| ·.name = key)) hmem hname
    have := List.length_pos_of_mem hmem
    exact Prod.Lex.left _ _ (by omega)
  · have h₁ := length_of_nextKey _hk
    have h₂ := Json.length_of_readStringFrom _hr
    have h₃ := length_of_readColon _hc
    have h₄ := Json.length_of_skip _hv
    exact Prod.Lex.right _ (by omega)

def readElements {α : Type} (first : Bool) (a : α) :
    List (Field α) → List Char → Except ReadError (α × List Char)
  | [], s =>
    match endList s with
    | .error fault => fail fault
    | .ok rest => .ok (a, rest)
  | field :: fields, s =>
    match nextElement first s with
    | .error fault => fail fault
    | .ok (.inl rest) => .ok (a, rest)
    | .ok (.inr s) =>
      match field.read a s with
      | .error e => .error e
      | .ok (a, s) => readElements false a fields s

def readSection {α : Type} (name : String) (fields : List (Field α)) (a : α) : Reader α := fun s =>
  match Json.skipBlank s with
  | [] => fail .endInValue
  | '[' :: s => readElements true a fields s
  | '\x7b' :: s => readMembers fields fields true a s
  | s => .error (wrongKind (.section name) s)

end DisplaySurface.Config
