import AlertRelay.Proofs.Document.Written
import AlertRelay.Proofs.Json.Normal
import AlertRelay.Proofs.Text.Utf8

/-!
# Decoders that read what was written

A decoder reads a document if it gives one value as long as the document is not nested too deep, and
refuses the document as malformed if it is (`Decoder.Reads`). A record is read if its members are,
one after the other (`Decoder.Reads.record`), and a text is read if its document is written by it
(`Decoder.Reads.ofBytes_render`).
-/

namespace AlertRelay

namespace Decoder

variable {α β : Type} {decoder : Decoder α} {d : Document} {a : α} {rules : DecodeRules}
  {fields : List (Field β)} {field : Field β} {found after : β} {update : β → β} {name : String}
  {rest members : List (Option String × Document)}

/-- What a decoder makes of the bytes of a JSON text. -/
def ofBytes (decoder : Decoder α) (bytes : Bytes) : Except DecodeFault α :=
  match ofUtf8? bytes with
  | some s => ofJson decoder s
  | none => .error .malformed

/-- Whether a decoder reads a value from a document, unless the document is nested too deep. -/
def Reads (decoder : Decoder α) (d : Document) (a : α) : Prop :=
  ∀ rules : DecodeRules,
    decoder rules d = if d.nesting ≤ rules.nesting then .ok a else .error .malformed

/-- Whether members are read one after the other, unless one of them is nested too deep. -/
def ReadsMembers (fields : List (Field β)) (members : List (Option String × Document))
    (found after : β) : Prop :=
  ∀ rules : DecodeRules, readMembers fields rules members found =
    if Document.membersNesting members ≤ rules.nesting then .ok after else .error .malformed

/-- What is not nested is read at any depth. -/
theorem Reads.of_flat (flat : d.nesting = 0) (read : ∀ rules, decoder rules d = .ok a) :
    Reads decoder d a := by
  intro rules
  rw [flat, if_pos (Nat.zero_le _)]
  exact read rules

theorem Reads.map (f : α → β) (reads : Reads decoder d a) :
    Reads (fun rules d => (decoder rules d).map f) d (f a) := by
  intro rules
  dsimp only
  rw [reads rules]
  split <;> rfl

theorem ReadsMembers.nil : ReadsMembers fields [] found found := by
  intro rules
  rw [Document.membersNesting, if_pos (Nat.zero_le _)]
  rfl

/-- A member is read by the field of its name, unless that field has been read. -/
theorem ReadsMembers.cons
    (known : fields.find? (fun field => field.names.contains name) = some field)
    (absent : field.present found = false) (read : Reads field.read d update)
    (others : ReadsMembers fields rest (update found) after) :
    ReadsMembers fields ((some name, d) :: rest) found after := by
  intro rules
  rw [readMembers, known]
  dsimp only
  rw [absent, if_neg Bool.false_ne_true, read rules, Document.membersNesting]
  simp only [Nat.max_le]
  by_cases inside : d.nesting ≤ rules.nesting
  · simp only [inside, true_and, ↓reduceIte]
    exact others rules
  · simp only [inside, false_and, ↓reduceIte]

/-- Members are read one after the other. -/
theorem readMembers_append (members : List (Option String × Document)) (found : β) :
    readMembers fields rules (members ++ rest) found =
      (readMembers fields rules members found).bind (readMembers fields rules rest) := by
  fun_induction readMembers fields rules members found with
  | case1 found => rfl
  | case2 => rfl
  | case3 name d more found missing skipped ih =>
      rw [List.cons_append, readMembers, missing]
      dsimp only
      rw [skipped]
      exact ih
  | case4 name d more found missing fault skipped =>
      rw [List.cons_append, readMembers, missing]
      dsimp only
      rw [skipped]
      rfl
  | case5 name d more found field known present =>
      rw [List.cons_append, readMembers, known]
      dsimp only
      rw [if_pos present]
      rfl
  | case6 name d more found field known absent update read ih =>
      rw [List.cons_append, readMembers, known]
      dsimp only
      rw [if_neg absent, read]
      exact ih
  | case7 name d more found field known absent fault read =>
      rw [List.cons_append, readMembers, known]
      dsimp only
      rw [if_neg absent, read]
      rfl

theorem membersNesting_append (members : List (Option String × Document)) :
    Document.membersNesting (members ++ rest) =
      max (Document.membersNesting members) (Document.membersNesting rest) := by
  induction members with
  | nil => exact (Nat.zero_max _).symm
  | cons member more ih =>
      rw [List.cons_append, Document.membersNesting, ih, Document.membersNesting, Nat.max_assoc]

/-- Members that follow others are read after them. -/
theorem ReadsMembers.append {between : β} (first : ReadsMembers fields members found between)
    (second : ReadsMembers fields rest between after) :
    ReadsMembers fields (members ++ rest) found after := by
  intro rules
  rw [readMembers_append, first rules, membersNesting_append]
  simp only [Nat.max_le]
  by_cases inside : Document.membersNesting members ≤ rules.nesting
  · simp only [inside, true_and, ↓reduceIte]
    exact second rules
  · simp only [inside, false_and, ↓reduceIte]
    rfl

/-- A record is read if its members are and nothing is lacking. -/
theorem Reads.record {blank : β} {finish : β → Option α}
    (read : ReadsMembers fields members blank after) (finished : finish after = some a) :
    Reads (Decoder.record fields blank finish) (.record members) a := by
  intro rules
  obtain ⟨nesting, surplus⟩ := rules
  unfold Decoder.record DecodeRules.enter
  cases nesting with
  | zero => rfl
  | succ nesting =>
      have inner := read ⟨nesting, surplus⟩
      dsimp only at inner
      simp only [Document.nesting, Nat.add_le_add_iff_right, Bind.bind, Except.bind, inner]
      by_cases inside : Document.membersNesting members ≤ nesting
      · simp only [inside, ↓reduceIte, finished]
      · simp only [inside, ↓reduceIte]

/-- A text is read if its document is. -/
theorem Reads.ofJson_render (writable : d.Writable) (reads : Reads decoder d a) :
    Decoder.ofJson decoder d.render = if d.nesting ≤ 127 then .ok a else .error .malformed := by
  have read := reads .json
  change _ = if d.nesting ≤ 127 then _ else _ at read
  unfold Decoder.ofJson
  rw [Document.ofJson_render writable]
  simp only [Bind.bind, Except.bind, read]
  by_cases inside : d.nesting ≤ 127
  · simp only [inside, ↓reduceIte]
  · simp only [inside, ↓reduceIte]

/-- The bytes of a text are read if its document is. -/
theorem Reads.ofBytes_render (writable : d.Writable) (reads : Reads decoder d a) :
    ofBytes decoder (utf8 d.render) = if d.nesting ≤ 127 then .ok a else .error .malformed := by
  unfold Decoder.ofBytes
  rw [ofUtf8?_utf8]
  exact reads.ofJson_render writable

end Decoder

end AlertRelay
