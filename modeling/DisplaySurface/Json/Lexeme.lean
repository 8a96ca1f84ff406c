import DisplaySurface.Json.Fault
import DisplaySurface.Text.Basic

/-!
The smallest parts of a JSON document: blanks, words, and strings with their escapes. Each function takes
the text that is left and gives back what it leaves, which is never longer.
-/

namespace DisplaySurface.Json

def isBlank (c : Char) : Bool :=
  c = ' ' || c = '\n' || c = '\t' || c = '\r'

def skipBlank (s : List Char) : List Char :=
  s.dropWhile isBlank

def skipWord : (word : List Char) → List Char → Except Fault (List Char)
  | [], s => .ok s
  | _ :: _, [] => .error .endInValue
  | w :: word, c :: s => if c = w then skipWord word s else .error .expectedIdent

/-- Four hexadecimal digits. Where fewer than four bytes are left the text ends too early, whatever they
are. -/
def readHex4 (s : List Char) : Except Fault (Nat × List Char) :=
  match s with
  | a :: b :: c :: d :: rest =>
    match Text.hexValue? a, Text.hexValue? b, Text.hexValue? c, Text.hexValue? d with
    | some a, some b, some c, some d => .ok (((a * 16 + b) * 16 + c) * 16 + d, rest)
    | _, _, _, _ => .error .invalidEscape
  | _ =>
    if (String.ofList s).utf8ByteSize < 4 then .error .endInString else .error .invalidEscape

def readLowSurrogate (high : Nat) : List Char → Except Fault (Char × List Char)
  | [] => .error .endInString
  | ['\\'] => .error .endInString
  | '\\' :: 'u' :: s =>
    match readHex4 s with
    | .error e => .error e
    | .ok (low, rest) =>
      if 0xDC00 ≤ low ∧ low ≤ 0xDFFF then
        .ok (Char.ofNat ((high - 0xD800) * 0x400 + (low - 0xDC00) + 0x10000), rest)
      else .error .loneSurrogate
  | _ => .error .endOfEscape

def readEscape : List Char → Except Fault (Char × List Char)
  | [] => .error .endInString
  | '"' :: s => .ok ('"', s)
  | '\\' :: s => .ok ('\\', s)
  | '/' :: s => .ok ('/', s)
  | 'b' :: s => .ok ('\x08', s)
  | 'f' :: s => .ok ('\x0c', s)
  | 'n' :: s => .ok ('\n', s)
  | 'r' :: s => .ok ('\r', s)
  | 't' :: s => .ok ('\t', s)
  | 'u' :: s =>
    match readHex4 s with
    | .error e => .error e
    | .ok (n, rest) =>
      if 0xDC00 ≤ n ∧ n ≤ 0xDFFF then .error .loneSurrogate
      else if 0xD800 ≤ n ∧ n ≤ 0xDBFF then readLowSurrogate n rest
      else .ok (Char.ofNat n, rest)
  | _ => .error .invalidEscape

theorem length_of_readHex4 {s rest : List Char} {n : Nat} (h : readHex4 s = .ok (n, rest)) :
    rest.length < s.length := by
  unfold readHex4 at h
  split at h
  · split at h <;> simp_all
    omega
  · split at h <;> cases h

theorem length_of_readLowSurrogate {high : Nat} {s rest : List Char} {c : Char}
    (h : readLowSurrogate high s = .ok (c, rest)) : rest.length < s.length := by
  unfold readLowSurrogate at h
  split at h
  · cases h
  · cases h
  · split at h
    · cases h
    · rename_i hl
      have := length_of_readHex4 hl
      split at h
      · obtain ⟨-, rfl⟩ : _ ∧ _ = rest := by simpa only [Except.ok.injEq, Prod.mk.injEq] using h
        simp only [List.length_cons]
        omega
      · cases h
  · cases h

theorem length_of_readEscape {s rest : List Char} {c : Char} (h : readEscape s = .ok (c, rest)) :
    rest.length < s.length := by
  unfold readEscape at h
  split at h
  case h_1 | h_11 => cases h
  case h_10 =>
    split at h
    · cases h
    · rename_i hn
      have := length_of_readHex4 hn
      split at h
      · cases h
      · split at h
        · have := length_of_readLowSurrogate h
          simp only [List.length_cons]
          omega
        · cases h
          simp only [List.length_cons]
          omega
  all_goals
    cases h
    simp

def readStringFrom (read : List Char) (s : List Char) : Except Fault (String × List Char) :=
  match s with
  | [] => .error .endInString
  | '"' :: rest => .ok (String.ofList read.reverse, rest)
  | '\\' :: rest =>
    match _h : readEscape rest with
    | .error e => .error e
    | .ok (c, rest) => readStringFrom (c :: read) rest
  | c :: rest =>
    if c.toNat < 0x20 then .error .controlCharacter else readStringFrom (c :: read) rest
termination_by s.length
decreasing_by
  · have := length_of_readEscape _h
    simp_all
    omega
  · simp

def readString (s : List Char) : Except Fault (String × List Char) :=
  readStringFrom [] s

def skipEscape : List Char → Except Fault (List Char)
  | [] => .error .endInString
  | 'u' :: s =>
    match readHex4 s with
    | .error e => .error e
    | .ok (_, rest) => .ok rest
  | c :: s =>
    if c ∈ ['"', '\\', '/', 'b', 'f', 'n', 'r', 't'] then .ok s else .error .invalidEscape

theorem length_of_skipEscape {s rest : List Char} (h : skipEscape s = .ok rest) :
    rest.length < s.length := by
  unfold skipEscape at h
  split at h
  · cases h
  · split at h
    · cases h
    · rename_i h4
      have := length_of_readHex4 h4
      simp_all
      omega
  · split at h <;> simp_all

def skipString (s : List Char) : Except Fault (List Char) :=
  match s with
  | [] => .error .endInString
  | '"' :: rest => .ok rest
  | '\\' :: rest =>
    match _h : skipEscape rest with
    | .error e => .error e
    | .ok rest => skipString rest
  | c :: rest => if c.toNat < 0x20 then .error .controlCharacter else skipString rest
termination_by s.length
decreasing_by
  · have := length_of_skipEscape _h
    simp_all
    omega
  · simp

end DisplaySurface.Json
