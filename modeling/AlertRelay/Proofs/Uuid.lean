import AlertRelay.Text.Hex
import AlertRelay.Uuid
import Mathlib.Algebra.Order.Ring.Nat

/-!
# Written identifiers are read back

An identifier of 128 bits is read from its text as it was (`Uuid.parse?_render`). Its text is 32
digits in groups; the groups come apart as they were put together (`Uuid.unhyphenate?_hyphenate`),
and the digits spell the number that they were taken from (`Uuid.foldlM_hexDigits`).
-/

namespace AlertRelay

namespace Uuid

theorem length_hexDigits (count n : Nat) : (hexDigits count n).length = count := by
  induction count generalizing n with
  | zero => rfl
  | succ count ih => rw [hexDigits, List.length_append, ih, List.length_singleton]

/-- The lowest digits of a number spell the number without what is above them. -/
theorem foldlM_hexDigits (count n start : Nat) :
    (hexDigits count n).foldlM (fun n c => (hexDigit? c).map fun d => n * 16 + d) start =
      some (start * 16 ^ count + n % 16 ^ count) := by
  induction count generalizing n with
  | zero => rw [hexDigits, Nat.pow_zero, Nat.mul_one, Nat.mod_one]; rfl
  | succ count ih =>
      have low : n % 16 < 16 := Nat.mod_lt n (by decide)
      have split : n % 16 ^ (count + 1) = n % 16 + 16 * (n / 16 % 16 ^ count) := by
        rw [Nat.pow_succ', Nat.mod_mul]
      rw [hexDigits, List.foldlM_append, ih]
      simp only [bind, Option.bind_some, List.foldlM_cons, List.foldlM_nil, hexDigit?_hexDigit low,
        Option.map_some, pure, Option.some.injEq]
      rw [split, Nat.pow_succ', Nat.mul_left_comm, Nat.add_mul]
      omega

/-- A value is read back from its hexadecimal digits. -/
theorem ofHex?_hexDigits {u : Uuid} {count : Nat} (fits : u.value < 16 ^ count) :
    ofHex? (hexDigits count u.value) = some u := by
  unfold Uuid.ofHex?
  rw [foldlM_hexDigits, Nat.mod_eq_of_lt fits, Nat.zero_mul, Nat.zero_add]
  rfl

/-- Digits in groups come apart as they were put together. -/
theorem unhyphenate?_hyphenate {lengths : List Nat} {digits : List Char}
    (all : digits.length = lengths.sum) :
    unhyphenate? lengths (hyphenate lengths digits) = some digits := by
  induction lengths generalizing digits with
  | nil =>
      cases List.length_eq_zero_iff.mp all
      rfl
  | cons count rest ih =>
      rw [List.sum_cons] at all
      cases rest with
      | nil =>
          rw [List.sum_nil, Nat.add_zero] at all
          rw [hyphenate, List.take_of_length_le (Nat.le_of_eq all), unhyphenate?, if_pos all]
      | cons next more =>
          have group : (digits.take count).length = count := by
            rw [List.length_take]
            omega
          have others : (digits.drop count).length = (next :: more).sum := by
            rw [List.length_drop]
            omega
          rw [hyphenate, unhyphenate?]
          · rw [List.drop_left' group, List.take_left' group]
            change (unhyphenate? (next :: more) (hyphenate (next :: more) (digits.drop count))).map
              (fun rest => digits.take count ++ rest) = some digits
            rw [ih others]
            exact congrArg some (List.take_append_drop count digits)
          all_goals exact List.cons_ne_nil _ _

/-- Hyphens stand between the groups only. -/
theorem length_hyphenate {lengths : List Nat} {digits : List Char}
    (all : digits.length = lengths.sum) :
    (hyphenate lengths digits).length = lengths.sum + (lengths.length - 1) := by
  induction lengths generalizing digits with
  | nil => rfl
  | cons count rest ih =>
      rw [List.sum_cons] at all ⊢
      cases rest with
      | nil =>
          rw [hyphenate, List.length_take, List.sum_nil]
          rw [List.sum_nil] at all
          exact Nat.min_eq_left (by omega)
      | cons next more =>
          have others : (digits.drop count).length = (next :: more).sum := by
            rw [List.length_drop]
            omega
          rw [hyphenate, List.length_append, List.length_cons, ih others, List.length_take]
          · simp only [List.length_cons]
            omega
          · exact List.cons_ne_nil _ _

/-- An identifier of 128 bits is read from its text. -/
theorem parse?_render {u : Uuid} (fits : u.value < 2 ^ 128) : parse? u.render = some u := by
  have spelled : ofHex? (hexDigits 32 u.value) = some u := ofHex?_hexDigits fits
  have all := length_hexDigits 32 u.value
  unfold Uuid.parse? Uuid.render
  rw [String.toList_ofList]
  generalize hexDigits 32 u.value = digits at spelled all ⊢
  have length : (hyphenate groupLengths digits).length = 36 := length_hyphenate all
  have grouped : unhyphenate? groupLengths (hyphenate groupLengths digits) = some digits :=
    unhyphenate?_hyphenate all
  generalize hyphenate groupLengths digits = text at length grouped
  simp only [length, Nat.reduceEqDiff, false_and, ↓reduceIte, grouped, Option.bind_some, spelled]

end Uuid

end AlertRelay
