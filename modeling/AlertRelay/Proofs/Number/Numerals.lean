import AlertRelay.Proofs.Number.Digits
import Mathlib.Data.List.Induction

/-!
# Texts of digits

A reader of digits takes the longest text of digits that stands at the front (`takeDigits_spec`).
Such a text is that of its number with zeros before it (`eq_zeros_append`), and without them if its
first digit is the only one or not zero (`eq_toDigits`).
-/

namespace AlertRelay

variable {c : Char} {cs s rest : List Char} {values : List Nat} {n : Nat}

/-- A text is the digits that are read at its front and a rest that begins with none. -/
theorem takeDigits_spec (read : takeDigits s = (values, rest)) :
    ∃ cs, (∀ c ∈ cs, c.isDigit = true) ∧ s = cs ++ rest ∧ values = digitValues cs ∧
      NoDigit rest := by
  induction s generalizing values with
  | nil =>
      cases read
      exact ⟨[], nofun, rfl, rfl, .nil⟩
  | cons c after ih =>
      rw [takeDigits, decimalDigit?_eq] at read
      by_cases digit : c.isDigit = true
      · rw [if_pos digit] at read
        cases more : takeDigits after with
        | mk found left =>
            rw [more] at read
            obtain ⟨rfl, rfl⟩ := Prod.mk.inj read
            obtain ⟨cs, digits, rfl, rfl, stops⟩ := ih more
            exact ⟨c :: cs, List.forall_mem_cons.mpr ⟨digit, digits⟩, rfl, rfl, stops⟩
      · rw [if_neg digit] at read
        cases read
        exact ⟨[], nofun, rfl, rfl, .cons (Bool.eq_false_of_not_eq_true digit)⟩

theorem digitValue_lt (digit : c.isDigit = true) : c.toNat - '0'.toNat < 10 := by
  have last := (Char.isDigit_iff_toNat.mp digit).2
  change c.toNat ≤ 57 at last
  change c.toNat - 48 < 10
  omega

/-- So many digits make a number below that power of ten. -/
theorem ofDigits_lt (digits : ∀ c ∈ cs, c.isDigit = true) :
    Literal.ofDigits (digitValues cs) < 10 ^ cs.length := by
  have small : ∀ d ∈ digitValues cs, d < 10 := by
    intro d among
    obtain ⟨c, member, rfl⟩ := List.mem_map.mp among
    exact digitValue_lt (digits c member)
  have bound := foldl_digits_lt small 0
  rw [digitValues, List.length_map, Nat.zero_add, Nat.one_mul] at bound
  exact bound

/-- A digit is the character of its value. -/
theorem digitChar_digit (digit : c.isDigit = true) : Nat.digitChar (c.toNat - '0'.toNat) = c := by
  obtain ⟨first, last⟩ := Char.isDigit_iff_toNat.mp digit
  change 48 ≤ c.toNat at first
  change c.toNat ≤ 57 at last
  apply Char.toNat_inj.mp
  change (Nat.digitChar (c.toNat - 48)).toNat = c.toNat
  rw [Nat.toNat_digitChar_of_lt_ten (by omega)]
  omega

theorem ofDigits_snoc (cs : List Char) (c : Char) :
    Literal.ofDigits (digitValues (cs ++ [c])) =
      10 * Literal.ofDigits (digitValues cs) + (c.toNat - '0'.toNat) := by
  unfold Literal.ofDigits digitValues
  rw [List.map_append, List.foldl_append, Nat.mul_comm]
  rfl

/-- A text of digits is that of its number, with zeros before it. -/
theorem eq_zeros_append (digits : ∀ c ∈ cs, c.isDigit = true) (some_ : cs ≠ []) :
    ∃ zeros, cs = List.replicate zeros '0' ++
      Nat.toDigits 10 (Literal.ofDigits (digitValues cs)) := by
  induction cs using List.reverseRecOn with
  | nil => exact absurd rfl some_
  | append_singleton front c ih =>
      have digit : c.isDigit = true := digits c (List.mem_append_right _ List.mem_cons_self)
      have value := digitValue_lt digit
      have last : Nat.toDigits 10 (c.toNat - '0'.toNat) = [c] := by
        rw [Nat.toDigits_of_lt_base value, digitChar_digit digit]
      rw [ofDigits_snoc]
      by_cases single : front = []
      · subst single
        refine ⟨0, ?_⟩
        change [c] = Nat.toDigits 10 (10 * 0 + (c.toNat - '0'.toNat))
        rw [Nat.mul_zero, Nat.zero_add, last]
      · -- The last digit continues a number above zero, or stands after another zero.
        obtain ⟨zeros, text⟩ :=
          ih (fun d among => digits d (List.mem_append_left _ among)) single
        generalize Literal.ofDigits (digitValues front) = n at text
        rcases Nat.eq_zero_or_pos n with zero | positive
        · subst zero
          refine ⟨zeros + 1, ?_⟩
          rw [Nat.mul_zero, Nat.zero_add, last, text, List.replicate_succ']
          rfl
        · refine ⟨zeros, ?_⟩
          rw [← Nat.toDigits_append_toDigits (by decide) positive value, last, ← List.append_assoc,
            ← text]

/-- A text of digits is that of its number if no zero stands before another digit. -/
theorem eq_toDigits (digits : ∀ c ∈ cs, c.isDigit = true) (some_ : cs ≠ [])
    (plain : ∀ d rest, digitValues cs ≠ 0 :: d :: rest) :
    cs = Nat.toDigits 10 (Literal.ofDigits (digitValues cs)) := by
  obtain ⟨zeros, text⟩ := eq_zeros_append digits some_
  generalize Literal.ofDigits (digitValues cs) = n at text
  cases zeros with
  | zero => exact text
  | succ zeros =>
      rw [text, List.replicate_succ] at plain
      cases others : digitValues (List.replicate zeros '0' ++ Nat.toDigits 10 n) with
      | nil =>
          have none := List.map_eq_nil_iff.mp others
          exact absurd (List.append_eq_nil_iff.mp none).2 Nat.toDigits_ne_nil
      | cons d rest => exact absurd (congrArg (0 :: ·) others) (plain d rest)

end AlertRelay
