import AlertRelay.Document.Render
import AlertRelay.Document.Scan

/-!
# Strings as JSON text

A string literal is read as the text it was written for, whatever characters the text holds
(`scanString_quote`).
-/

namespace AlertRelay

namespace Document

variable {fuel : Nat} {done rest : List Char} {readable : Bool}

/-- A control character is spelled by the four digits of its escape. -/
theorem hexWord?_control {n : Nat} (control : n < 0x20) :
    hexWord? '0' '0' (hexDigit (n / 16)) (hexDigit (n % 16)) = some n := by
  have all : ∀ n : Fin 0x20,
      hexWord? '0' '0' (hexDigit (n.val / 16)) (hexDigit (n.val % 16)) = some n.val := by decide
  exact all ⟨n, control⟩

/-- A character that stands for itself in a string. -/
theorem scanString_plain {c : Char} (noQuote : c ≠ '"') (noEscape : c ≠ '\\')
    (printable : ¬ c.toNat < 0x20) :
    scanString (fuel + 1) done readable (c :: rest) =
      scanString fuel (c :: done) readable rest := by
  rw [scanString]
  · rw [if_neg fun wrong => wrong.elim noEscape printable]
  · exact fun quote => noQuote quote
  · exact fun _ _ _ _ _ escape _ => noEscape escape
  · exact fun _ _ escape _ => noEscape escape

/-- A character as it was written is read in one step. -/
theorem scanString_escape (c : Char) :
    scanString (fuel + 1) done readable (escape c ++ rest) =
      scanString fuel (c :: done) readable rest := by
  unfold Document.escape
  by_cases quote : c = '"'
  · subst quote
    rfl
  by_cases backslash : c = '\\'
  · subst backslash
    rfl
  by_cases backspace : c = '\x08'
  · subst backspace
    rfl
  by_cases formFeed : c = '\x0c'
  · subst formFeed
    rfl
  by_cases newline : c = '\n'
  · subst newline
    rfl
  by_cases carriage : c = '\r'
  · subst carriage
    rfl
  by_cases tab : c = '\t'
  · subst tab
    rfl
  simp only [quote, backslash, backspace, formFeed, newline, carriage, tab, ↓reduceIte]
  by_cases control : c.toNat < 0x20
  · have noHigh : isHighHalf c.toNat = false := decide_eq_false (by omega)
    have noLow : isLowHalf c.toNat = false := decide_eq_false (by omega)
    rw [if_pos control]
    simp only [List.cons_append, List.nil_append, scanString, hexWord?_control control, noHigh,
      noLow, Bool.false_eq_true, ↓reduceIte, Char.ofNat_toNat]
  · rw [if_neg control]
    exact scanString_plain quote backslash control

/-- The characters of a text are read up to the quote that ends them. -/
theorem scanString_chars (cs tail : List Char) (enough : cs.length < fuel) :
    scanString fuel done true (cs.flatMap escape ++ '"' :: tail) =
      some (some (String.ofList (done.reverse ++ cs)), tail) := by
  induction cs generalizing fuel done with
  | nil =>
      obtain ⟨left, rfl⟩ := Nat.exists_eq_add_one.mpr enough
      rw [List.flatMap_nil, List.nil_append, List.append_nil]
      rfl
  | cons c cs ih =>
      obtain ⟨left, rfl⟩ := Nat.exists_eq_add_one.mpr (Nat.zero_lt_of_lt enough)
      rw [List.flatMap_cons, List.append_assoc, scanString_escape,
        ih (Nat.lt_of_succ_lt_succ enough), List.reverse_cons, List.append_assoc,
        List.singleton_append]

/-- Escapes never make a text shorter. -/
theorem length_le_escapes (cs : List Char) : cs.length ≤ (cs.flatMap escape).length := by
  induction cs with
  | nil => exact Nat.le_refl 0
  | cons c cs ih =>
      have one : 0 < (escape c).length := by
        unfold Document.escape
        repeat' split
        all_goals exact Nat.succ_pos _
      rw [List.flatMap_cons, List.length_append, List.length_cons]
      omega

/-- A string literal is read as the text that it was written for. -/
theorem scanString_quote (s : String) (tail : List Char) :
    ∃ inner, quote s ++ tail = '"' :: inner ∧
      scanString (inner.length + 1) [] true inner = some (some s, tail) := by
  refine ⟨s.toList.flatMap escape ++ '"' :: tail, ?_, ?_⟩
  · unfold Document.quote
    rw [List.cons_append, List.cons_append, List.append_assoc, List.singleton_append]
  · have enough := length_le_escapes s.toList
    rw [scanString_chars, List.reverse_nil, List.nil_append, String.ofList_toList]
    rw [List.length_append]
    omega

end Document

end AlertRelay
