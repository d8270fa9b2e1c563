import AlertRelay.Number.Text
import AlertRelay.Proofs.Number.Digits

/-!
# Numbers as JSON text

The reader of numbers stops at what closes a value, and reads before it what it would read alone
(`scanNumber_append`). An integer of 64 bits is read as it was written (`integer_readsBack`).
Whether a double is, depends on the double (`ReadsBack`).
-/

namespace AlertRelay

namespace Document

/-- Whether a text ends, or goes on after a value that is complete. -/
def Closes (tail : List Char) : Prop :=
  ∀ c ∈ tail.head?, c = ',' ∨ c = ']' ∨ c = '\x7d'

/-- Whether the text of a double is a number that reads as the double. -/
def ReadsBack (x : Float) : Prop :=
  ∃ l, scanNumber (Binary64.ofFloat x).jsonText.toList = some (l, []) ∧ l.number? = some (.real x)

variable {tail : List Char}

theorem Closes.nil : Closes [] := nofun

theorem Closes.noDigit (closes : Closes tail) : NoDigit tail := by
  intro c begins
  rcases closes c begins with rfl | rfl | rfl <;> rfl

/-- The digits of a number do not depend on what comes after it. -/
theorem takeDigits_closes (s : List Char) (closes : Closes tail) :
    takeDigits (s ++ tail) = ((takeDigits s).1, (takeDigits s).2 ++ tail) := by
  induction s with
  | nil =>
      have nothing : takeDigits ([] ++ tail) = (digitValues [], tail) :=
        takeDigits_append nofun closes.noDigit
      exact nothing
  | cons c rest ih =>
      rw [List.cons_append, takeDigits, takeDigits, ih]
      cases decimalDigit? c <;> rfl

theorem scanFraction_closes (s : List Char) (closes : Closes tail) :
    scanFraction (s ++ tail) = (scanFraction s).map fun (x, rest) => (x, rest ++ tail) := by
  cases s with
  | nil =>
      cases tail with
      | nil => rfl
      | cons c rest => rcases closes c rfl with rfl | rfl | rfl <;> rfl
  | cons c rest =>
      by_cases point : c = '.'
      · subst point
        rw [List.cons_append, scanFraction, takeDigits_closes rest closes, scanFraction]
        cases takeDigits rest with
        | mk digits after => cases digits <;> rfl
      · have whole : ∀ s : List Char, scanFraction (c :: s) = some (none, c :: s) := by
          intro s
          rw [scanFraction]
          exact fun rest begins => point (List.cons.inj begins).1
        rw [List.cons_append, whole, whole]
        rfl

theorem scanSign_closes (s : List Char) (closes : Closes tail) :
    scanSign (s ++ tail) = ((scanSign s).1, (scanSign s).2 ++ tail) := by
  cases s with
  | nil =>
      cases tail with
      | nil => rfl
      | cons c rest => rcases closes c rfl with rfl | rfl | rfl <;> rfl
  | cons c rest =>
      by_cases plus : c = '+'
      · subst plus
        rfl
      by_cases minus : c = '-'
      · subst minus
        rfl
      have absent : ∀ s : List Char, scanSign (c :: s) = (false, c :: s) := by
        intro s
        rw [scanSign]
        · exact fun _ begins => plus (List.cons.inj begins).1
        · exact fun _ begins => minus (List.cons.inj begins).1
      rw [List.cons_append, absent, absent]
      rfl

theorem scanExponent_closes (s : List Char) (closes : Closes tail) :
    scanExponent (s ++ tail) = (scanExponent s).map fun (x, rest) => (x, rest ++ tail) := by
  cases s with
  | nil =>
      cases tail with
      | nil => rfl
      | cons c rest => rcases closes c rfl with rfl | rfl | rfl <;> rfl
  | cons c rest =>
      rw [List.cons_append, scanExponent, scanExponent]
      by_cases mark : c = 'e' ∨ c = 'E'
      · rw [if_pos mark, if_pos mark, scanSign_closes rest closes]
        dsimp only
        rw [takeDigits_closes _ closes]
        cases takeDigits (scanSign rest).2 with
        | mk digits after => cases digits <;> rfl
      · rw [if_neg mark, if_neg mark]
        rfl

theorem scanPlaces_closes (negative : Bool) (whole : List Nat) (s : List Char)
    (closes : Closes tail) :
    scanPlaces negative whole (s ++ tail) =
      (scanPlaces negative whole s).map fun (l, rest) => (l, rest ++ tail) := by
  unfold Document.scanPlaces
  rw [scanFraction_closes s closes]
  cases scanFraction s with
  | none => rfl
  | some fraction =>
      dsimp only [Option.map_some]
      rw [scanExponent_closes _ closes]
      cases scanExponent fraction.2 <;> rfl

/-- A number without its sign does not depend on what comes after it. -/
theorem scanMagnitude_closes (negative : Bool) (s : List Char) (closes : Closes tail) :
    scanMagnitude negative (s ++ tail) =
      (scanMagnitude negative s).map fun (l, rest) => (l, rest ++ tail) := by
  unfold Document.scanMagnitude
  rw [takeDigits_closes s closes]
  cases takeDigits s with
  | mk whole rest =>
      cases whole with
      | nil => rfl
      | cons d more =>
          cases more with
          | nil => cases d <;> exact scanPlaces_closes negative [_] rest closes
          | cons e more =>
              cases d with
              | zero => rfl
              | succ d => exact scanPlaces_closes negative ((d + 1) :: e :: more) rest closes

/-- The reader of numbers stops at what closes a value. -/
theorem scanNumber_closes (s : List Char) (closes : Closes tail) :
    scanNumber (s ++ tail) = (scanNumber s).map fun (l, rest) => (l, rest ++ tail) := by
  cases s with
  | nil =>
      cases tail with
      | nil => rfl
      | cons c rest => rcases closes c rfl with rfl | rfl | rfl <;> rfl
  | cons c rest =>
      by_cases minus : c = '-'
      · subst minus
        exact scanMagnitude_closes true rest closes
      · have plain : ∀ s, scanNumber (c :: s) = scanMagnitude false (c :: s) := by
          intro s
          rw [scanNumber]
          exact fun _ begins => minus (List.cons.inj begins).1
        rw [List.cons_append, plain, plain]
        exact scanMagnitude_closes false (c :: rest) closes

/-- A number begins with a sign or a digit. -/
theorem scanNumber_begins {s : List Char} {read : Literal × List Char}
    (scanned : scanNumber s = some read) :
    ∃ c rest, s = c :: rest ∧ (c = '-' ∨ c.isDigit = true) := by
  cases s with
  | nil => cases scanned
  | cons c rest =>
      refine ⟨c, rest, rfl, ?_⟩
      by_cases minus : c = '-'
      · exact .inl minus
      · right
        by_contra other
        rw [scanNumber, scanMagnitude, takeDigits, decimalDigit?_eq, if_neg other] at scanned
        · cases scanned
        · exact fun _ begins => minus (List.cons.inj begins).1

/-- The text of a natural number is read to its end. -/
theorem scanMagnitude_toDigits (negative : Bool) (n : Nat) :
    scanMagnitude negative (Nat.toDigits 10 n) =
      some (⟨negative, digitValues (Nat.toDigits 10 n), none, none⟩, []) := by
  have read := takeDigits_toDigits n NoDigit.nil
  rw [List.append_nil] at read
  unfold Document.scanMagnitude
  rw [read]
  split
  · next empty => exact absurd (Prod.mk.inj empty).1 (toDigits_ne_nil n)
  · next zero => exact absurd (Prod.mk.inj zero).1 (toDigits_ne_zero_cons n _ _)
  · next whole rest _ _ same =>
    cases same
    rfl

/-- The least integer that a document holds. -/
def minInteger : Int := -0x8000000000000000

/-- The digits of a number that fits a word are absorbed as that number. -/
theorem absorb_toDigits {n : Nat} (fits : n ≤ maxWord) :
    Literal.absorb 0 (digitValues (Nat.toDigits 10 n)) = (n, []) := by
  have value : (digitValues (Nat.toDigits 10 n)).foldl (fun n d => n * 10 + d) 0 = n :=
    ofDigits_toDigits n
  rw [Literal.absorb_eq (value.symm ▸ fits), value]

/-- An integer of 64 bits is read as it was written. -/
theorem integer_readsBack {i : Int} (least : minInteger ≤ i) (greatest : i ≤ maxWord) :
    ∃ l, scanNumber (toString i).toList = some (l, []) ∧ l.number? = some (.integer i) := by
  unfold Document.minInteger at least
  cases i with
  | ofNat n =>
      have text : (toString (Int.ofNat n)).toList = Nat.toDigits 10 n := Nat.toList_repr
      have fits : n ≤ maxWord := Int.ofNat_le.mp greatest
      refine ⟨⟨false, digitValues (Nat.toDigits 10 n), none, none⟩, ?_, ?_⟩
      · obtain ⟨c, rest, digits⟩ := List.exists_cons_of_ne_nil (Nat.toDigits_ne_nil (n := n))
        have digit : c.isDigit = true := isDigit_toDigits n c (digits ▸ List.mem_cons_self)
        rw [text, ← scanMagnitude_toDigits, digits, scanNumber]
        rintro _ begins
        rw [(List.cons.inj begins).1] at digit
        cases digit
      · unfold Literal.number?
        rw [absorb_toDigits fits]
        rfl
  | negSucc n =>
      have text : (toString (Int.negSucc n)).toList = '-' :: Nat.toDigits 10 (n + 1) := by
        change ("-" ++ (n + 1).repr).toList = _
        rw [String.toList_append, Nat.toList_repr]
        rfl
      have fits : n + 1 ≤ 0x8000000000000000 := by omega
      refine ⟨⟨true, digitValues (Nat.toDigits 10 (n + 1)), none, none⟩, ?_, ?_⟩
      · rw [text]
        exact scanMagnitude_toDigits true (n + 1)
      · unfold Literal.number?
        rw [absorb_toDigits (Nat.le_trans fits (by decide))]
        have negative : Literal.toInteger true (n + 1) = .integer (Int.negSucc n) := by
          unfold Literal.toInteger
          rw [if_neg (by decide), if_neg (by omega)]
          rfl
        rw [← negative]
        rfl

end Document

end AlertRelay
