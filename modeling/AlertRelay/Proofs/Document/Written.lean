import AlertRelay.Proofs.Document.Numbers
import AlertRelay.Proofs.Document.Strings

/-!
# Documents as JSON text

A document whose leaves can be written is read from its text as it was: `Document.ofJson` gives it
back and finds nothing after it (`ofJson_render`).
-/

namespace AlertRelay

namespace Document

mutual

/-- Whether a document is spelled by its text: it has no unreadable parts, its integers have 64
bits, and its doubles read back. -/
def Writable : Document → Prop
  | null | bool _ | text _ => True
  | integer i => minInteger ≤ i ∧ i ≤ maxWord
  | real x => ReadsBack x
  | list items => AllWritable items
  | record members => MembersWritable members
  | unreadable | cutOff => False

/-- Whether every document of a list is spelled by its text. -/
def AllWritable : List Document → Prop
  | [] => True
  | d :: rest => d.Writable ∧ AllWritable rest

/-- Whether every member of a record is spelled by its text. -/
def MembersWritable : List (Option String × Document) → Prop
  | [] => True
  | (name, d) :: rest => name.isSome ∧ d.Writable ∧ MembersWritable rest

end

variable {fuel : Nat} {tail : List Char}

/-- Whether a character may begin a value. -/
def Begins (c : Char) : Prop := c ∈ ['n', 't', 'f', '"', '[', '\x7b', '-'] ∨ c.isDigit = true

theorem skipBlanks_cons {c : Char} (solid : ¬ (c = ' ' ∨ c = '\n' ∨ c = '\t' ∨ c = '\r'))
    (rest : List Char) : skipBlanks (c :: rest) = c :: rest := by
  rw [skipBlanks, if_neg solid]

/-- Nothing that begins a value is a blank or closes a list or a record. -/
theorem skipBlanks_begins {c : Char} (begins : Begins c) (rest : List Char) :
    skipBlanks (c :: rest) = c :: rest ∧ c ≠ ']' ∧ c ≠ '\x7d' := by
  have other : ∀ d, ¬ Begins d → c ≠ d := fun d outside same => outside (same ▸ begins)
  refine ⟨skipBlanks_cons ?_ rest, other _ ?_, other _ ?_⟩
  · rintro (same | same | same | same) <;> exact other _ (by unfold Document.Begins; decide) same
  all_goals
    unfold Document.Begins
    decide

theorem begins_number {c : Char} (first : c = '-' ∨ c.isDigit = true) : Begins c := by
  rcases first with rfl | digit
  · exact .inl (by decide)
  · exact .inr digit

/-- A number is read where a sign or a digit stands. -/
theorem scanValue_number {s : List Char} {l : Literal} (scanned : scanNumber s = some (l, []))
    (closes : Closes tail) : scanValue (fuel + 1) (s ++ tail) = (ofLiteral l, some tail) := by
  obtain ⟨c, rest, rfl, first⟩ := scanNumber_begins scanned
  have other : ∀ d : Char, d ≠ '-' → d.isDigit = false → c ≠ d := by
    rintro d sign noDigit rfl
    rcases first with rfl | digit
    · exact sign rfl
    · rw [noDigit] at digit
      cases digit
  have read := scanNumber_closes (c :: rest) closes
  rw [scanned] at read
  rw [List.cons_append] at read ⊢
  rw [scanValue, (skipBlanks_begins (begins_number first) _).1]
  split
  · next same => exact absurd (List.cons.inj same).1 (other '"' (by decide) rfl)
  · next same => exact absurd (List.cons.inj same).1 (other '[' (by decide) rfl)
  · next same => exact absurd (List.cons.inj same).1 (other '\x7b' (by decide) rfl)
  · next same => exact absurd (List.cons.inj same).1 (other 't' (by decide) rfl)
  · next same => exact absurd (List.cons.inj same).1 (other 'f' (by decide) rfl)
  · next same => exact absurd (List.cons.inj same).1 (other 'n' (by decide) rfl)
  · rw [read]
    rfl

/-- The text of a document begins as a value does. -/
theorem chars_begins {d : Document} (writable : d.Writable) :
    ∃ c rest, d.chars = c :: rest ∧ Begins c := by
  cases d with
  | null => exact ⟨_, _, rfl, .inl (by decide)⟩
  | bool b => cases b <;> exact ⟨_, _, rfl, .inl (by decide)⟩
  | text s => exact ⟨_, _, rfl, .inl (by decide)⟩
  | list items => exact ⟨_, _, rfl, .inl (by decide)⟩
  | record members => exact ⟨_, _, rfl, .inl (by decide)⟩
  | integer i =>
      obtain ⟨l, scanned, _⟩ := integer_readsBack writable.1 writable.2
      obtain ⟨c, rest, text, first⟩ := scanNumber_begins scanned
      exact ⟨c, rest, text, begins_number first⟩
  | real x =>
      obtain ⟨l, scanned, _⟩ := writable
      obtain ⟨c, rest, text, first⟩ := scanNumber_begins scanned
      exact ⟨c, rest, text, begins_number first⟩
  | unreadable | cutOff => exact writable.elim

/-- A word is found where it stands. -/
theorem word?_append (word : String) (rest : List Char) :
    word? word (word.toList ++ rest) = some rest := by
  have begins : word.toList.isPrefixOf (word.toList ++ rest) = true :=
    List.isPrefixOf_iff_prefix.mpr (List.prefix_append _ _)
  unfold Document.word?
  rw [if_pos begins, List.drop_left' String.length_toList]

theorem scanValue_null : scanValue (fuel + 1) (null.chars ++ tail) = (.null, some tail) := by
  have read : word? "ull" ('u' :: 'l' :: 'l' :: tail) = some tail := word?_append "ull" tail
  simp [chars, scanValue, skipBlanks, read]

theorem scanValue_bool (b : Bool) :
    scanValue (fuel + 1) ((bool b).chars ++ tail) = (.bool b, some tail) := by
  cases b with
  | true =>
      have read : word? "rue" ('r' :: 'u' :: 'e' :: tail) = some tail := word?_append "rue" tail
      simp [chars, scanValue, skipBlanks, read]
  | false =>
      have read : word? "alse" ('a' :: 'l' :: 's' :: 'e' :: tail) = some tail :=
        word?_append "alse" tail
      simp [chars, scanValue, skipBlanks, read]

/-- A quoted text is scanned as itself. -/
theorem scanValue_text (s : String) :
    scanValue (fuel + 1) (quote s ++ tail) = (.text s, some tail) := by
  obtain ⟨inner, text, scanned⟩ := scanString_quote s tail
  rw [text, scanValue, skipBlanks, if_neg (by decide)]
  simp only [scanned]

theorem itemChars_true (d : Document) (rest : List Document) :
    itemChars true (d :: rest) = d.chars ++ itemChars false rest := by
  rw [itemChars]
  rfl

/-- The items after the first one stand behind a comma. -/
theorem itemChars_false (d : Document) (rest : List Document) :
    itemChars false (d :: rest) = ',' :: itemChars true (d :: rest) := by
  rw [itemChars, itemChars_true]
  rfl

theorem memberChars_true (name : String) (d : Document)
    (rest : List (Option String × Document)) :
    memberChars true ((some name, d) :: rest) =
      quote name ++ ':' :: (d.chars ++ memberChars false rest) := by
  rw [memberChars, List.append_assoc, List.cons_append]
  rfl

/-- The members after the first one stand behind a comma. -/
theorem memberChars_false (member : Option String × Document)
    (rest : List (Option String × Document)) :
    memberChars false (member :: rest) = ',' :: memberChars true (member :: rest) := by
  rw [memberChars, memberChars]
  rfl

/-- A list is read item by item once its bracket is passed. -/
theorem scanValue_list {items : List Document} (writable : AllWritable items)
    (scanned : items ≠ [] →
      scanItems fuel (itemChars true items ++ ']' :: tail) = (items, some tail)) :
    scanValue (fuel + 1) ((list items).chars ++ tail) = (.list items, some tail) := by
  rw [chars, List.cons_append, List.cons_append, List.append_assoc, List.singleton_append,
    scanValue, skipBlanks, if_neg (by decide)]
  cases items with
  | nil => rfl
  | cons d rest =>
      have read := scanned nofun
      obtain ⟨c, others, text, begins⟩ := chars_begins writable.1
      rw [itemChars_true, text, List.cons_append, List.cons_append] at read ⊢
      have ⟨noBlank, noBracket, _⟩ := skipBlanks_begins begins
        (others ++ itemChars false rest ++ ']' :: tail)
      simp only [noBlank]
      split
      · next same => exact absurd (List.cons.inj same).1 noBracket
      · rw [read]

/-- A record is read member by member once its brace is passed. -/
theorem scanValue_record {members : List (Option String × Document)}
    (writable : MembersWritable members)
    (scanned : members ≠ [] →
      scanMembers fuel (memberChars true members ++ '\x7d' :: tail) = (members, some tail)) :
    scanValue (fuel + 1) ((record members).chars ++ tail) = (.record members, some tail) := by
  rw [chars, List.cons_append, List.cons_append, List.append_assoc, List.singleton_append,
    scanValue, skipBlanks, if_neg (by decide)]
  cases members with
  | nil => rfl
  | cons member rest =>
      have read := scanned nofun
      obtain ⟨name, d⟩ := member
      obtain ⟨name, rfl⟩ := Option.isSome_iff_exists.mp writable.1
      rw [memberChars_true, Document.quote, List.cons_append, List.cons_append,
        List.cons_append] at read ⊢
      simp only [skipBlanks_cons (c := '"') (by decide)]
      split
      · next same => exact absurd (List.cons.inj same).1 (by decide)
      · rw [read]

/-- One item, and what follows it. -/
theorem scanItems_cons {d : Document} {rest : List Document}
    (item : ∀ {tail}, Closes tail → scanValue fuel (d.chars ++ tail) = (d, some tail))
    (others : rest ≠ [] →
      scanItems fuel (itemChars true rest ++ ']' :: tail) = (rest, some tail)) :
    scanItems (fuel + 1) (itemChars true (d :: rest) ++ ']' :: tail) = (d :: rest, some tail) := by
  rw [itemChars_true, List.append_assoc, scanItems]
  cases rest with
  | nil =>
      rw [item fun c begins => by cases begins; exact .inr (.inl rfl)]
      rfl
  | cons next rest =>
      have read := others nofun
      rw [itemChars_false, item fun c begins => by cases begins; exact .inl rfl]
      simp only [List.cons_append, skipBlanks_cons (c := ',') (by decide), read]

/-- One member, and what follows it. -/
theorem scanMembers_cons {name : String} {d : Document} {rest : List (Option String × Document)}
    (item : ∀ {tail}, Closes tail → scanValue fuel (d.chars ++ tail) = (d, some tail))
    (others : rest ≠ [] →
      scanMembers fuel (memberChars true rest ++ '\x7d' :: tail) = (rest, some tail)) :
    scanMembers (fuel + 1) (memberChars true ((some name, d) :: rest) ++ '\x7d' :: tail) =
      ((some name, d) :: rest, some tail) := by
  rw [memberChars_true, List.append_assoc, List.cons_append, List.append_assoc]
  obtain ⟨inner, text, scanned⟩ :=
    scanString_quote name (':' :: (d.chars ++ (memberChars false rest ++ '\x7d' :: tail)))
  rw [text, scanMembers, skipBlanks_cons (by decide)]
  simp only [scanned, skipBlanks_cons (c := ':') (by decide)]
  cases rest with
  | nil =>
      rw [item fun c begins => by cases begins; exact .inr (.inr rfl)]
      rfl
  | cons next rest =>
      have read := others nofun
      rw [memberChars_false, item fun c begins => by cases begins; exact .inl rfl]
      simp only [List.cons_append, skipBlanks_cons (c := ',') (by decide), read]

mutual

/-- A value is read from its text, up to what closes it. -/
theorem scanValue_chars : ∀ (d : Document), d.Writable → ∀ {fuel : Nat} {tail : List Char},
    2 * d.chars.length ≤ fuel → Closes tail →
      scanValue fuel (d.chars ++ tail) = (d, some tail)
  | .null, _, fuel + 1, tail, _, _ => scanValue_null
  | .bool b, _, fuel + 1, tail, _, _ => scanValue_bool b
  | .integer i, writable, fuel + 1, tail, _, closes => by
      obtain ⟨l, scanned, value⟩ := integer_readsBack writable.1 writable.2
      rw [chars, scanValue_number scanned closes, ofLiteral, value]
      rfl
  | .real x, writable, fuel + 1, tail, _, closes => by
      obtain ⟨l, scanned, value⟩ := writable
      rw [chars, scanValue_number scanned closes, ofLiteral, value]
      rfl
  | .text s, _, fuel + 1, tail, _, _ => scanValue_text s
  | .list items, writable, fuel + 1, tail, enough, _ => by
      refine scanValue_list writable fun some_ => scanItems_chars items writable some_ ?_
      rw [chars, List.cons_append, List.length_cons, List.length_append, List.length_singleton]
        at enough
      omega
  | .record members, writable, fuel + 1, tail, enough, _ => by
      refine scanValue_record writable fun some_ => scanMembers_chars members writable some_ ?_
      rw [chars, List.cons_append, List.length_cons, List.length_append, List.length_singleton]
        at enough
      omega
  | .unreadable, writable, _, _, _, _ => writable.elim
  | .cutOff, writable, _, _, _, _ => writable.elim
  | d, writable, 0, _, enough, _ => by
      obtain ⟨c, rest, text, _⟩ := chars_begins writable
      rw [text, List.length_cons] at enough
      omega

/-- The items of a list are read from their text. -/
theorem scanItems_chars : ∀ (items : List Document), AllWritable items → items ≠ [] →
    ∀ {fuel : Nat} {tail : List Char}, 2 * (itemChars true items).length + 1 ≤ fuel →
      scanItems fuel (itemChars true items ++ ']' :: tail) = (items, some tail)
  | [], _, absent, _, _, _ => absurd rfl absent
  | d :: rest, writable, _, fuel + 1, tail, enough => by
      rw [itemChars_true, List.length_append] at enough
      refine scanItems_cons (scanValue_chars d writable.1 (by omega)) fun some_ =>
        scanItems_chars rest writable.2 some_ ?_
      obtain ⟨next, others, rfl⟩ := List.exists_cons_of_ne_nil some_
      rw [itemChars_false, List.length_cons] at enough
      omega

/-- The members of a record are read from their text. -/
theorem scanMembers_chars : ∀ (members : List (Option String × Document)),
    MembersWritable members → members ≠ [] →
    ∀ {fuel : Nat} {tail : List Char}, 2 * (memberChars true members).length + 1 ≤ fuel →
      scanMembers fuel (memberChars true members ++ '\x7d' :: tail) = (members, some tail)
  | [], _, absent, _, _, _ => absurd rfl absent
  | (some name, d) :: rest, writable, _, fuel + 1, tail, enough => by
      rw [memberChars_true, List.length_append, List.length_cons, List.length_append] at enough
      refine scanMembers_cons (scanValue_chars d writable.2.1 (by omega)) fun some_ =>
        scanMembers_chars rest writable.2.2 some_ ?_
      obtain ⟨next, others, rfl⟩ := List.exists_cons_of_ne_nil some_
      rw [memberChars_false, List.length_cons] at enough
      omega
  | (none, _) :: _, writable, _, _, _, _ => absurd writable.1 (by decide)

end

/-- A document is read from its text as it was. -/
theorem ofJson_render {d : Document} (writable : d.Writable) : ofJson d.render = ⟨d, true⟩ := by
  have read : scanValue (2 * d.chars.length + 2) (d.chars ++ []) = (d, some []) :=
    scanValue_chars d writable (Nat.le_add_right ..) Closes.nil
  rw [List.append_nil] at read
  unfold Document.ofJson Document.render
  rw [String.toList_ofList]
  dsimp only
  rw [read]
  rfl

end Document

end AlertRelay
