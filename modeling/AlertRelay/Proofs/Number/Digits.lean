import AlertRelay.Document.Scan
import Mathlib.Algebra.Order.Ring.Nat

/-!
# Digits

A number is written in decimal digits and read again digit by digit: the reader takes all the digits
that were written (`takeDigits_append`), and their value is the number (`ofDigits_toDigits`).
-/

namespace AlertRelay

/-- The values of digits. -/
def digitValues (cs : List Char) : List Nat := cs.map fun c => c.toNat - '0'.toNat

/-- Whether a text does not begin with a digit. -/
def NoDigit (s : List Char) : Prop := ∀ c ∈ s.head?, c.isDigit = false

variable {c : Char} {cs tail : List Char} {n : Nat}

theorem decimalDigit?_eq (c : Char) :
    decimalDigit? c = if c.isDigit then some (c.toNat - '0'.toNat) else none := by
  have same : c.isDigit = true ↔ '0' ≤ c ∧ c ≤ '9' := by
    unfold Char.isDigit
    rw [Bool.and_eq_true, decide_eq_true_iff, decide_eq_true_iff]
    rfl
  unfold decimalDigit?
  simp only [same]

theorem NoDigit.nil : NoDigit [] := nofun

theorem NoDigit.cons (other : c.isDigit = false) : NoDigit (c :: tail) := by
  intro first begins
  cases begins
  exact other

/-- The reader takes the digits and stops where they end. -/
theorem takeDigits_append (digits : ∀ c ∈ cs, c.isDigit = true) (stops : NoDigit tail) :
    takeDigits (cs ++ tail) = (digitValues cs, tail) := by
  induction cs with
  | nil =>
      cases tail with
      | nil => rfl
      | cons c rest =>
          have other := stops c rfl
          rw [List.nil_append, takeDigits, decimalDigit?_eq, other, if_neg Bool.false_ne_true]
          rfl
  | cons c rest ih =>
      have digit := digits c List.mem_cons_self
      have read := ih fun d among => digits d (List.mem_cons_of_mem c among)
      rw [List.cons_append, takeDigits, decimalDigit?_eq, digit, if_pos rfl, read]
      rfl

/-- The number of some digits is what the library reads from them. -/
theorem ofDigits_digitValues (cs : List Char) :
    Literal.ofDigits (digitValues cs) = Nat.ofDigitChars 10 cs 0 := by
  unfold Literal.ofDigits digitValues
  rw [List.foldl_map, Nat.ofDigitChars_eq_foldl]
  simp only [Nat.mul_comm]

theorem isDigit_toDigits (n : Nat) : ∀ c ∈ Nat.toDigits 10 n, c.isDigit = true :=
  fun _ among => Nat.isDigit_of_mem_toDigits (by decide) (by decide) among

/-- The digits of a number are taken from its text. -/
theorem takeDigits_toDigits (n : Nat) (stops : NoDigit tail) :
    takeDigits (Nat.toDigits 10 n ++ tail) = (digitValues (Nat.toDigits 10 n), tail) :=
  takeDigits_append (isDigit_toDigits n) stops

/-- The digits of a number spell it. -/
theorem ofDigits_toDigits (n : Nat) : Literal.ofDigits (digitValues (Nat.toDigits 10 n)) = n := by
  rw [ofDigits_digitValues]
  exact Nat.ofDigitChars_ten_toDigits

theorem toDigits_ne_nil (n : Nat) : digitValues (Nat.toDigits 10 n) ≠ [] := by
  intro none
  exact Nat.toDigits_ne_nil (List.map_eq_nil_iff.mp none)

/-- A number is not written with a zero before its other digits. -/
theorem toDigits_ne_zero_cons (n d : Nat) (rest : List Nat) :
    digitValues (Nat.toDigits 10 n) ≠ 0 :: d :: rest := by
  induction n using Nat.strongRecOn generalizing d rest with
  | ind n ih =>
      intro zero
      by_cases small : n < 10
      · rw [Nat.toDigits_of_lt_base small] at zero
        have single := (List.cons.inj zero).2
        cases single
      · have larger := Nat.le_of_not_lt small
        have front := ih (n / 10) (by omega)
        have tenth := ofDigits_toDigits (n / 10)
        rw [Nat.toDigits_of_base_le (by decide) larger, digitValues, List.map_append,
          ← digitValues] at zero
        -- The digits of the tenth part are the same but for the last one.
        cases digits : digitValues (Nat.toDigits 10 (n / 10)) with
        | nil => exact toDigits_ne_nil _ digits
        | cons first others =>
            rw [digits] at front tenth zero
            have head : first = 0 := (List.cons.inj zero).1
            subst head
            cases others with
            | nil =>
                have tiny : n / 10 = 0 := tenth.symm
                omega
            | cons second others => exact front second others rfl

theorem length_takeDigits_le (s : List Char) : (takeDigits s).1.length ≤ s.length := by
  induction s with
  | nil => exact Nat.le_refl 0
  | cons c rest ih =>
      rw [takeDigits]
      split
      · exact Nat.succ_le_succ ih
      · exact Nat.zero_le _

/-- What is taken are decimal digits. -/
theorem takeDigits_lt (s : List Char) : ∀ d ∈ (takeDigits s).1, d < 10 := by
  induction s with
  | nil => exact nofun
  | cons c rest ih =>
      rw [takeDigits, decimalDigit?_eq]
      by_cases digit : c.isDigit = true
      · have last : c.toNat ≤ 57 := (Char.isDigit_iff_toNat.mp digit).2
        rw [if_pos digit]
        refine List.forall_mem_cons.mpr ⟨?_, ih⟩
        change c.toNat - 48 < 10
        omega
      · rw [if_neg digit]
        exact nofun

/-- So many digits spell less than the power of the base. -/
theorem foldl_digits_lt {base : Nat} {digits : List Nat} (small : ∀ d ∈ digits, d < base)
    (start : Nat) :
    digits.foldl (fun n d => n * base + d) start < (start + 1) * base ^ digits.length := by
  induction digits generalizing start with
  | nil => exact Nat.lt_succ_of_le (Nat.le_of_eq (Nat.mul_one start).symm)
  | cons d rest ih =>
      obtain ⟨digit, others⟩ := List.forall_mem_cons.mp small
      have next : start * base + d + 1 ≤ (start + 1) * base := by
        rw [Nat.succ_mul]
        omega
      calc
        _ < (start * base + d + 1) * base ^ rest.length := ih others (start * base + d)
        _ ≤ (start + 1) * base * base ^ rest.length := Nat.mul_le_mul_right _ next
        _ = (start + 1) * base ^ (rest.length + 1) := by rw [Nat.mul_assoc, Nat.pow_succ']

namespace Literal

/-- More digits never make a number smaller. -/
theorem le_foldl_digits (digits : List Nat) (start : Nat) :
    start ≤ digits.foldl (fun n d => n * 10 + d) start := by
  induction digits generalizing start with
  | nil => exact Nat.le_refl start
  | cons d rest ih => exact Nat.le_trans (by omega) (ih (start * 10 + d))

/-- Digits that 64 bits hold are all taken in. -/
theorem absorb_eq {digits : List Nat} {start : Nat}
    (fits : digits.foldl (fun n d => n * 10 + d) start ≤ maxWord) :
    absorb start digits = (digits.foldl (fun n d => n * 10 + d) start, []) := by
  induction digits generalizing start with
  | nil => rfl
  | cons d rest ih =>
      have inside := Nat.le_trans (le_foldl_digits rest (start * 10 + d)) fits
      rw [absorb, if_pos inside]
      exact ih fits

end Literal

end AlertRelay
