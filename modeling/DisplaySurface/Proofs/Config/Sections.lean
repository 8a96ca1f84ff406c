import DisplaySurface.Proofs.Config.Values

/-!
Sections in text. A section is written as an object whose members assign values to some of its fields, in any
order and each at most once, among any number of members that are no fields. Reading it makes exactly these
assignments.
-/

namespace DisplaySurface.Config

/-- An assignment to a field: the texts that the value may have, and what the section becomes. -/
structure Entry (α : Type) where
  name : String
  Text : List Char → Prop
  put : α → α

variable {α : Type}

/-- The field is the one of the assignment, and its reader takes every text of the value. -/
structure Entry.Fits (e : Entry α) (field : Field α) : Prop where
  name : field.name = e.name
  reads : ∀ text, e.Text text → ∀ a, Reads (field.read a) text (e.put a)

/-- Members that make these assignments in this order. The other members have other names, and values of
any kind. -/
inductive Assigns (names : List String) : List (Entry α) → List Json.Member → Prop
  | nil : Assigns names [] []
  | entry {e : Entry α} {m : Json.Member} {es : List (Entry α)} {ms : List Json.Member}
      (key : Json.Spells e.name m.key) (value : e.Text m.value) (later : Assigns names es ms) :
      Assigns names (e :: es) (m :: ms)
  | other {key : String} {m : Json.Member} {es : List (Entry α)} {ms : List Json.Member}
      (unknown : key ∉ names) (spelled : Json.Spells key m.key) (value : Json.IsValue m.value)
      (later : Assigns names es ms) : Assigns names es (m :: ms)

/-- The texts of a section with these fields that makes these assignments, in any order. -/
def SectionText (names : List String) (entries : List (Entry α)) (text : List Char) : Prop :=
  ∃ es ms, es.Perm entries ∧ Assigns names es ms ∧ Json.IsObject ms text

theorem sectionText_writeObject {names : List String} {es entries : List (Entry α)}
    {members : List (String × List Char)} (perm : es.Perm entries)
    (assigns : Assigns names es (members.map fun p => ⟨Json.writeString p.1, p.2⟩)) :
    SectionText names entries (Json.writeObject members) :=
  ⟨es, _, perm, assigns, Json.isObject_writeObject members⟩

structure Ready (fields unread : List (Field α)) (es : List (Entry α)) : Prop where
  known : ∀ e ∈ es, ∃ field, unread.find? (·.name = e.name) = some field ∧ e.Fits field
  fields : ∀ field ∈ unread, field ∈ fields
  unique : (es.map (·.name)).Nodup

theorem find?_eraseP {p q : α → Bool} (apart : ∀ a, p a = true → q a = false) (l : List α) :
    (l.eraseP p).find? q = l.find? q := by
  induction l with
  | nil => rfl
  | cons a l ih =>
    cases here : p a with
    | true => rw [List.eraseP_cons_of_pos here, List.find?_cons_of_neg (by simp [apart a here])]
    | false => rw [List.eraseP_cons_of_neg (by simp [here]), List.find?_cons, List.find?_cons, ih]

section Reading

variable {fields unread : List (Field α)} {e : Entry α} {es : List (Entry α)} {ms : List Json.Member}
  {m : Json.Member} {text rest s tail : List Char} {first : Bool} {a : α}

theorem Ready.behind (ready : Ready fields unread (e :: es)) :
    Ready fields (unread.eraseP (·.name = e.name)) es := by
  obtain ⟨here, unique⟩ := List.nodup_cons.mp ready.unique
  constructor
  · intro e' mem
    obtain ⟨field, found, fits⟩ := ready.known e' (List.mem_cons_of_mem e mem)
    have apart : ∀ field : Field α, decide (field.name = e.name) = true →
        decide (field.name = e'.name) = false := by
      intro field same
      rw [decide_eq_true_eq] at same
      rw [decide_eq_false_iff_not, same]
      intro equal
      exact here (List.mem_map.mpr ⟨e', mem, equal.symm⟩)
    exact ⟨field, (find?_eraseP apart unread).trans found, fits⟩
  · intro field mem
    exact ready.fields field (List.mem_of_mem_eraseP mem)
  · exact unique

theorem nextKey_comma {gap : List Char} (blank : Json.Blank gap) (h : Json.skipBlank s = '"' :: tail) :
    nextKey false (gap ++ ',' :: s) = .ok (.inr tail) := by
  have comma := Json.skipBlank_of_solid blank (show Json.isBlank ',' = false from rfl) s
  simp [nextKey, comma, h]

theorem nextKey_close {gap : List Char} (blank : Json.Blank gap) (first : Bool) (rest : List Char) :
    nextKey first (gap ++ '\x7d' :: rest) = .ok (.inl rest) := by
  rw [nextKey]
  simp only [Json.skipBlank_of_solid blank (show Json.isBlank '\x7d' = false from rfl)]

theorem nextKey_first (h : Json.skipBlank s = '"' :: tail) : nextKey true s = .ok (.inr tail) := by
  rw [nextKey, h]
  rfl

theorem readMembers_eq (fields unread : List (Field α)) (first : Bool) (a : α) (s : List Char) :
    readMembers fields unread first a s =
      match nextKey first s with
      | .error fault => fail fault
      | .ok (.inl rest) => .ok (a, rest)
      | .ok (.inr s) =>
        match Json.readString s with
        | .error fault => fail fault
        | .ok (key, s) =>
          match unread.find? (·.name = key) with
          | some field =>
            match readColon s with
            | .error e => .error e
            | .ok s =>
              match field.read a s with
              | .error e => .error e
              | .ok (a, s) => readMembers fields (unread.eraseP (·.name = key)) false a s
          | none =>
            if fields.any (·.name = key) then .error (.duplicateField key)
            else
              match readColon s with
              | .error e => .error e
              | .ok s =>
                match Json.skipValue s with
                | .error fault => fail fault
                | .ok s => readMembers fields unread false a s := by
  rw [readMembers]
  split
  · rename_i end_
    simp only [end_]
  · rename_i end_
    simp only [end_]
  · rename_i more
    simp only [more]
    split
    · rename_i key
      simp only [key]
    · rename_i key
      simp only [key]
      split
      · rename_i found
        exact found ▸ rfl
      · rename_i found
        simp only [found]
        split
        · rfl
        · split
          · rename_i colon
            simp only [colon]
          · rename_i colon
            simp only [colon]
            split
            · rename_i value
              simp only [value]
            · rename_i value
              simp only [value]

theorem readMembers_close {gap : List Char} (blank : Json.Blank gap) (rest : List Char) :
    readMembers fields unread first a (gap ++ '\x7d' :: rest) = .ok (a, rest) := by
  rw [readMembers_eq, nextKey_close blank]

/-- One member is read: its assignment is made and is not made again, or it is passed over. -/
theorem readMembers_member (assigns : Assigns (fields.map (·.name)) es (m :: ms))
    (ready : Ready fields unread es) (written : m.Text text) (ends : Json.Ends rest)
    (next : ∀ tail, text ++ rest = '"' :: tail → nextKey first s = .ok (.inr tail)) (a : α) :
    ∃ unread' es' a', Assigns (fields.map (·.name)) es' ms ∧ Ready fields unread' es' ∧
      es'.foldl (fun a e => e.put a) a' = es.foldl (fun a e => e.put a) a ∧
      readMembers fields unread first a s = readMembers fields unread' false a' rest := by
  obtain ⟨before, after, blank, blank'⟩ := written
  have start {key : String} (spelled : Json.Spells key m.key) :
      ∃ tail, nextKey first s = .ok (.inr tail) ∧
        Json.readString tail = .ok (key, before ++ ':' :: (after ++ (m.value ++ rest))) := by
    obtain ⟨tail, quoted, string⟩ := spelled.read
    refine ⟨_, next (tail ++ (before ++ ':' :: (after ++ (m.value ++ rest)))) ?_, string _⟩
    rw [quoted]
    simp
  cases assigns with
  | @entry e _ es _ key value later =>
    obtain ⟨tail, first_key, string⟩ := start key
    obtain ⟨field, found, fits⟩ := ready.known e List.mem_cons_self
    refine ⟨unread.eraseP (·.name = e.name), es, e.put a, later, ready.behind, rfl, ?_⟩
    have put := fits.reads m.value value a after rest blank' ends
    rw [readMembers_eq, first_key]
    simp only [string, found, readColon_append blank, put]
  | @other key _ _ _ unknown spelled value later =>
    obtain ⟨tail, first_key, string⟩ := start spelled
    refine ⟨unread, es, a, later, ready, rfl, ?_⟩
    have absent {p : List (Field α)} (within : ∀ field ∈ p, field ∈ fields) :
        ∀ field ∈ p, ¬ decide (field.name = key) = true := by
      intro field mem same
      rw [decide_eq_true_eq] at same
      exact unknown (same ▸ List.mem_map_of_mem (within field mem))
    have new : fields.any (·.name = key) = false := by
      rw [List.any_eq_false]
      exact absent fun _ mem => mem
    rw [readMembers_eq, first_key]
    simp only [string, List.find?_eq_none.mpr (absent ready.fields), new, readColon_append blank,
      Json.skipValue_append value blank' ends, Bool.false_eq_true, if_false]

theorem readMembers_elements {texts : List (List Char)} {body : List Char}
    (elements : Json.Elements texts body) (visible : texts ≠ [])
    (members : List.Forall₂ Json.Member.Text ms texts) (assigns : Assigns (fields.map (·.name)) es ms)
    (ready : Ready fields unread es)
    (next : ∀ tail, Json.skipBlank (body ++ '\x7d' :: rest) = '"' :: tail →
      nextKey first s = .ok (.inr tail)) (a : α) :
    readMembers fields unread first a s = .ok (es.foldl (fun a e => e.put a) a, rest) := by
  have solid (tail : List Char) : Json.skipBlank ('"' :: tail) = '"' :: tail := Json.skipBlank_cons rfl tail
  induction elements generalizing ms es unread first a s with
  | none => exact absurd rfl visible
  | one before text after blank blank' =>
    obtain ⟨m, _, written, none, rfl⟩ := List.forall₂_cons_right_iff.mp members
    cases none
    have here : ∀ tail, text ++ (after ++ '\x7d' :: rest) = '"' :: tail →
        nextKey first s = .ok (.inr tail) := by
      intro tail starts
      apply next
      rw [List.append_assoc, List.append_assoc, Json.skipBlank_append blank, starts, solid]
    obtain ⟨unread', es', a', assigns', _, same, step⟩ :=
      readMembers_member assigns ready written ((Json.ends_brace rest).behind blank') here a
    cases assigns'
    rw [step, readMembers_close blank', ← same]
    rfl
  | more before text after text' texts body blank blank' later ih =>
    obtain ⟨m, ms', written, members', rfl⟩ := List.forall₂_cons_right_iff.mp members
    have here : ∀ tail, text ++ (after ++ ',' :: (body ++ '\x7d' :: rest)) = '"' :: tail →
        nextKey first s = .ok (.inr tail) := by
      intro tail starts
      apply next
      rw [List.append_assoc, List.append_assoc, List.append_assoc, Json.skipBlank_append blank,
        List.cons_append, starts, solid]
    obtain ⟨unread', es', a', assigns', ready', same, step⟩ :=
      readMembers_member assigns ready written ((Json.ends_comma _).behind blank') here a
    rw [step, ← same]
    exact ih (List.cons_ne_nil _ _) members' assigns' ready' (fun tail => nextKey_comma blank') a'

theorem readMembers_object {body : List Char} (members : Json.Members ms body)
    (assigns : Assigns (fields.map (·.name)) es ms) (ready : Ready fields unread es) (a : α) :
    readMembers fields unread true a (body ++ '\x7d' :: rest) =
      .ok (es.foldl (fun a e => e.put a) a, rest) := by
  obtain ⟨texts, members, elements⟩ := members
  cases texts with
  | nil =>
    cases members
    cases assigns
    cases elements with
    | none _ blank => exact readMembers_close blank rest
  | cons text texts =>
    exact readMembers_elements elements (List.cons_ne_nil _ _) members assigns ready
      (fun tail => nextKey_first) a

/-- A section is read as its assignments say, in whatever order they stand, and whatever else is there. -/
theorem reads_section {entries : List (Entry α)} (written : SectionText (fields.map (·.name)) entries text)
    (known : ∀ e ∈ entries, ∃ field, fields.find? (·.name = e.name) = some field ∧ e.Fits field)
    (unique : (entries.map (·.name)).Nodup)
    (apart : ∀ e ∈ entries, ∀ e' ∈ entries, ∀ a, e'.put (e.put a) = e.put (e'.put a))
    (name : String) (a : α) :
    Reads (readSection name fields a) text (entries.foldl (fun a e => e.put a) a) := by
  intro gap rest blank _
  obtain ⟨es, ms, perm, assigns, body, members, rfl⟩ := written
  have ready : Ready fields fields es := by
    constructor
    · intro e mem
      exact known e (perm.mem_iff.mp mem)
    · exact fun _ mem => mem
    · exact (perm.map _).nodup_iff.mpr unique
  have any_order : es.foldl (fun a e => e.put a) a = entries.foldl (fun a e => e.put a) a := by
    apply perm.foldl_eq'
    intro e mem e' mem' a
    exact apart e (perm.mem_iff.mp mem) e' (perm.mem_iff.mp mem') a
  have text : '\x7b' :: (body ++ ['\x7d']) ++ rest = '\x7b' :: (body ++ '\x7d' :: rest) := by simp
  rw [text, readSection]
  simp only [Json.skipBlank_of_solid blank (show Json.isBlank '\x7b' = false from rfl),
    readMembers_object members assigns ready, any_order]

end Reading

end DisplaySurface.Config
