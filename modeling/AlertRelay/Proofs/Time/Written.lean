import AlertRelay.Proofs.Number.Digits
import AlertRelay.Proofs.Time.Calendar
import AlertRelay.Time.Rfc3339

/-!
# Written times are read back

The reader of events takes an instant from its text as it was (`parseRelaxed?_render`), if its
seconds are within the calendar and its fraction is below a second, or below two in the last second
of a minute (`Instant.WellFormed`). Whatever raw events give is such an instant. More than a second
of fraction in another second is written as a fraction of the next one, and so it is read
(`parseRelaxed?_render_carried`).
-/

namespace AlertRelay

variable {cs tail : List Char} {n width least most : Nat}

/-! ## Digits with zeros before them -/

theorem isDigit_padded (width n : Nat) : ∀ c ∈ padded width n, c.isDigit = true := by
  intro c among
  unfold padded at among
  rcases List.mem_append.mp among with zero | digit
  · rw [List.eq_of_mem_replicate zero]
    rfl
  · exact isDigit_toDigits n c digit

/-- A number is written with so many digits if it fits. -/
theorem length_padded (positive : 0 < width) (fits : n < 10 ^ width) :
    (padded width n).length = width := by
  have short := (Nat.length_toDigits_le_iff (by decide) positive).mpr fits
  unfold padded
  dsimp only
  rw [List.length_append, List.length_replicate]
  omega

/-- Zeros before the digits do not change the number. -/
theorem ofDigits_padded (width n : Nat) : Literal.ofDigits (digitValues (padded width n)) = n := by
  have zeros : ∀ count, (List.replicate count 0).foldl (fun n d => n * 10 + d) 0 = 0 := by
    intro count
    induction count with
    | zero => rfl
    | succ count ih => exact ih
  have digits := ofDigits_toDigits n
  unfold Literal.ofDigits at digits ⊢
  unfold padded digitValues
  rw [List.map_append, List.map_replicate, List.foldl_append]
  change List.foldl _ ((List.replicate _ 0).foldl _ 0) _ = n
  rw [zeros]
  exact digits

theorem padded_begins (width n : Nat) :
    ∃ c rest, padded width n = c :: rest ∧ c.isDigit = true := by
  cases text : padded width n with
  | nil =>
      have empty := congrArg List.length text
      have digits := Nat.length_toDigits_pos (b := 10) (n := n)
      unfold padded at empty
      dsimp only at empty
      rw [List.length_append, List.length_nil] at empty
      omega
  | cons c rest => exact ⟨c, rest, rfl, isDigit_padded width n c (text ▸ List.mem_cons_self)⟩

theorem NoDigit.take (stops : NoDigit tail) (count : Nat) : NoDigit (tail.take count) := by
  cases count with
  | zero => exact .nil
  | succ count =>
      cases tail with
      | nil => exact .nil
      | cons c rest => exact .cons (stops c rfl)

namespace Instant

/-- A number is read where as many digits stand as are asked for, or where they end. -/
theorem number?_append (digits : ∀ c ∈ cs, c.isDigit = true) (long : least ≤ cs.length)
    (fit : cs.length ≤ most) (stops : cs.length = most ∨ NoDigit tail) :
    number? least most (cs ++ tail) = some (Literal.ofDigits (digitValues cs), tail) := by
  have ends : NoDigit (tail.take (most - cs.length)) := by
    rcases stops with full | stops
    · rw [full, Nat.sub_self]
      exact .nil
    · exact stops.take _
  have length : (digitValues cs).length = cs.length := List.length_map ..
  unfold Instant.number?
  rw [List.take_append, List.take_of_length_le fit, takeDigits_append digits ends]
  dsimp only
  rw [length, if_neg (Nat.not_lt.mpr long), List.drop_left]

/-- A number is read back from its digits. -/
theorem number?_padded (positive : 0 < width) (fits : n < 10 ^ width) (enough : least ≤ width) :
    number? least width (padded width n ++ tail) = some (n, tail) := by
  have length := length_padded positive fits
  rw [number?_append (isDigit_padded width n) (by omega) (by omega) (.inl length),
    ofDigits_padded]

theorem isBlank_digit {c : Char} (digit : c.isDigit = true) : isBlank c = false := by
  have first : 48 ≤ c.toNat := (Char.isDigit_iff_toNat.mp digit).1
  have last : c.toNat ≤ 57 := (Char.isDigit_iff_toNat.mp digit).2
  unfold isBlank blankRanges
  simp only [List.any_cons, List.any_nil, Bool.or_false, Bool.or_eq_false_iff,
    Bool.and_eq_false_iff, decide_eq_false_iff_not]
  omega

theorem dropBlanks_cons {c : Char} (solid : isBlank c = false) (rest : List Char) :
    dropBlanks (c :: rest) = c :: rest := by
  unfold dropBlanks
  rw [List.dropWhile_cons, solid]
  rfl

/-- Digits are no blanks. -/
theorem dropBlanks_padded (width n : Nat) (tail : List Char) :
    dropBlanks (padded width n ++ tail) = padded width n ++ tail := by
  obtain ⟨c, rest, text, digit⟩ := padded_begins width n
  rw [text]
  exact dropBlanks_cons (isBlank_digit digit) _

/-- A part of two digits is read. -/
theorem part?_padded (fits : n < 100) : part? (padded 2 n ++ tail) = some (n, tail) := by
  unfold part?
  rw [dropBlanks_padded, number?_padded (by decide) fits (by decide)]

theorem mark?_self {c : Char} (solid : isBlank c = false) (rest : List Char) :
    mark? c (c :: rest) = some rest := by
  unfold mark?
  rw [dropBlanks_cons solid, char?, if_pos rfl]

theorem year?_signed (n : Nat) :
    number? 1 (padded 4 n ++ '-' :: tail).length (padded 4 n ++ '-' :: tail) =
      some (n, '-' :: tail) := by
  obtain ⟨c, rest, text, _⟩ := padded_begins 4 n
  rw [number?_append (isDigit_padded 4 n) (by rw [text]; exact Nat.succ_pos _)
    (by rw [List.length_append]; exact Nat.le_add_right _ _) (.inr (.cons rfl)), ofDigits_padded]

/-- A year is read from its text, with a sign or without. -/
theorem year?_yearText (year : Int) :
    year? (dropBlanks (yearText year ++ '-' :: tail)) = some (year, '-' :: tail) := by
  unfold yearText
  split
  · next range =>
      rw [dropBlanks_padded]
      have read : number? 1 4 (padded 4 year.toNat ++ '-' :: tail) =
          some (year.toNat, '-' :: tail) := number?_padded (by decide) (by omega) (by decide)
      obtain ⟨c, rest, text, digit⟩ := padded_begins 4 year.toNat
      have unsigned : ∀ sign : Char, sign.isDigit = false → c ≠ sign := by
        rintro sign other rfl
        rw [other] at digit
        cases digit
      rw [text, List.cons_append] at read ⊢
      have same : (year.toNat : Int) = year := Int.toNat_of_nonneg range.1
      rw [year?, read]
      · exact congrArg (fun y => some (y, '-' :: tail)) same
      · exact fun _ begins => unsigned '-' rfl (List.cons.inj begins).1
      · exact fun _ begins => unsigned '+' rfl (List.cons.inj begins).1
  · next outside =>
      split
      · next negative =>
          rw [List.cons_append, dropBlanks_cons (by decide)]
          change (number? 1 _ _).map _ = _
          have same : -(year.natAbs : Int) = year := by omega
          rw [year?_signed]
          exact congrArg (fun y => some (y, '-' :: tail)) same
      · next positive =>
          rw [List.cons_append, dropBlanks_cons (by decide)]
          change (number? 1 _ _).map _ = _
          have same : (year.natAbs : Int) = year := by omega
          rw [year?_signed]
          exact congrArg (fun y => some (y, '-' :: tail)) same

/-- A fraction is read back from its digits. -/
theorem nanos?_padded {count : Nat} (positive : 0 < count) (few : count ≤ 9)
    (fits : n < 10 ^ count) (stops : NoDigit tail) :
    nanos? (padded count n ++ tail) = some (n * pow10 (9 - count), tail) := by
  have length := length_padded positive fits
  have values : (digitValues (padded count n)).length = count := (List.length_map _).trans length
  have rest : takeDigits ([] ++ tail) = ([], tail) := takeDigits_append nofun stops
  rw [List.nil_append] at rest
  unfold nanos?
  rw [List.take_append, List.take_of_length_le (by omega),
    takeDigits_append (isDigit_padded count n) (stops.take _)]
  dsimp only
  have some_ : (digitValues (padded count n)).isEmpty = false := by
    rw [List.isEmpty_eq_false_iff, ← List.length_pos_iff, values]
    exact positive
  rw [some_, values, ofDigits_padded, List.drop_left' length, rest]
  rfl

/-- A fraction is read from its text. -/
theorem fraction?_fractionText {nanos : Nat} (fits : nanos < 1000000000) :
    fraction? (fractionText nanos ++ ['Z']) = some (nanos, ['Z']) := by
  unfold fractionText
  split
  · next none =>
      rw [none]
      rfl
  · split
    · next millis =>
        have whole : nanos / 1000000 * 1000000 = nanos := by omega
        change nanos? (padded _ _ ++ ['Z']) = _
        rw [nanos?_padded (by decide) (by decide) (by omega) (.cons rfl)]
        exact congrArg (fun n => some (n, ['Z'])) whole
    · split
      · next micros =>
          have whole : nanos / 1000 * 1000 = nanos := by omega
          change nanos? (padded _ _ ++ ['Z']) = _
          rw [nanos?_padded (by decide) (by decide) (by omega) (.cons rfl)]
          exact congrArg (fun n => some (n, ['Z'])) whole
      · change nanos? (padded _ _ ++ ['Z']) = _
        rw [nanos?_padded (by decide) (by decide) (by omega) (.cons rfl)]
        exact congrArg (fun n => some (n, ['Z'])) (Nat.mul_one nanos)

theorem bind_eq {α β : Type} {x : Option α} {a : α} (known : x = some a) (f : α → Option β) :
    (x >>= f) = f a := by
  rw [known]
  rfl

/-- The parts of a written time are read one after the other. -/
theorem parseRelaxed?_written {year : Int} {month day hour minute second nanos : Nat}
    (hmonth : month < 100) (hday : day < 100) (hhour : hour < 100) (hminute : minute < 100)
    (hsecond : second < 100) (hnanos : nanos < 1000000000) :
    parseRelaxed? (String.ofList (yearText year ++ '-' :: padded 2 month ++ '-' :: padded 2 day ++
      'T' :: padded 2 hour ++ ':' :: padded 2 minute ++ ':' :: padded 2 second ++
      fractionText nanos ++ ['Z'])) =
    (WrittenTime.ofParts? year month day hour minute second nanos).bind fun t =>
      t.toInstant? 0 := by
  have offset : relaxedOffset? (dropBlanks ['Z']) = some (0, []) := rfl
  have inside : -86400 < (0 : Int) ∧ (0 : Int) < 86400 ∧ (dropBlanks []).isEmpty = true := by decide
  have hyphen : isBlank '-' = false := by decide
  have colon : isBlank ':' = false := by decide
  have separator : ∀ rest, separator? ('T' :: rest) = some rest := fun _ => rfl
  unfold Instant.parseRelaxed?
  simp only [String.toList_ofList, List.append_assoc, List.cons_append]
  rw [bind_eq (year?_yearText year), bind_eq (mark?_self hyphen _), bind_eq (part?_padded hmonth),
    bind_eq (mark?_self hyphen _), bind_eq (part?_padded hday), bind_eq (separator _),
    bind_eq (part?_padded hhour), bind_eq (mark?_self colon _), bind_eq (part?_padded hminute),
    bind_eq (mark?_self colon _), bind_eq (part?_padded hsecond),
    bind_eq (fraction?_fractionText hnanos), bind_eq offset]
  exact if_pos inside

/-- Whether an instant is within the calendar, with a fraction of less than two seconds. -/
structure Fits (i : Instant) : Prop where
  first : minSeconds ≤ i.seconds
  last : i.seconds ≤ maxSeconds
  nanos : i.nanos < 2000000000

/-- Whether more than a second of fraction is in the last second of a minute, where it is a leap
second. -/
def Settled (i : Instant) : Prop := 1000000000 ≤ i.nanos → i.seconds % 60 = 59

/-- Whether an instant is one that texts and numbers can give. -/
structure WellFormed (i : Instant) : Prop extends Fits i where
  leap : i.Settled

/-- An instant with more than a second of fraction carried to the next second, but in the last
second of a minute. -/
def carried (i : Instant) : Instant :=
  if 1000000000 ≤ i.nanos ∧ i.seconds % 60 ≠ 59 then ⟨i.seconds + 1, i.nanos - 1000000000⟩ else i

/-- A date and a time of day stand for the second that they were taken from. -/
theorem toInstant?_eq {i : Instant} (wellFormed : i.WellFormed) {second : Nat}
    (known : second = if 1000000000 ≤ i.nanos then (i.seconds % 86400).toNat % 60 + 1
      else (i.seconds % 86400).toNat % 60) :
    WrittenTime.toInstant? ⟨Date.ofDayNumber (i.seconds / 86400),
      (i.seconds % 86400).toNat / 3600, (i.seconds % 86400).toNat / 60 % 60, second,
      i.nanos % 1000000000⟩ 0 = some i := by
  have fraction := wellFormed.nanos
  have leap : 1000000000 ≤ i.nanos → i.seconds % 60 = 59 := wellFormed.leap
  have nanos : (if second = 60 then i.nanos % 1000000000 + 1000000000
      else i.nanos % 1000000000) = i.nanos := by
    split at known <;> split <;> omega
  have seconds : i.seconds / 86400 * 86400 + (((i.seconds % 86400).toNat / 3600 * 3600 +
      (i.seconds % 86400).toNat / 60 % 60 * 60 + min second 59 : Nat) : Int) - 0 = i.seconds := by
    split at known <;> omega
  unfold WrittenTime.toInstant?
  dsimp only
  rw [nanos, Date.dayNumber_ofDayNumber, seconds]
  exact if_pos ⟨wellFormed.first, wellFormed.last⟩

/-- A well-formed instant is read from its text. -/
theorem parseRelaxed?_render {i : Instant} (wellFormed : i.WellFormed) :
    parseRelaxed? i.render = some i := by
  have first := wellFormed.first
  have last := wellFormed.last
  unfold Instant.minSeconds at first
  unfold Instant.maxSeconds at last
  have date : Date.ofParts? (Date.ofDayNumber (i.seconds / 86400)).year
      (Date.ofDayNumber (i.seconds / 86400)).month (Date.ofDayNumber (i.seconds / 86400)).day =
        some (Date.ofDayNumber (i.seconds / 86400)) :=
    Date.ofParts?_ofDayNumber (by omega) (by omega)
  obtain ⟨month, day⟩ := Date.lt_hundred_of_ofParts? date
  generalize known : (if 1000000000 ≤ i.nanos then (i.seconds % 86400).toNat % 60 + 1
    else (i.seconds % 86400).toNat % 60) = second
  have minute : second ≤ 60 := by
    split at known <;> omega
  have written : WrittenTime.ofParts? (Date.ofDayNumber (i.seconds / 86400)).year
      (Date.ofDayNumber (i.seconds / 86400)).month (Date.ofDayNumber (i.seconds / 86400)).day
      ((i.seconds % 86400).toNat / 3600) ((i.seconds % 86400).toNat / 60 % 60) second
      (i.nanos % 1000000000) = some ⟨Date.ofDayNumber (i.seconds / 86400),
        (i.seconds % 86400).toNat / 3600, (i.seconds % 86400).toNat / 60 % 60, second,
        i.nanos % 1000000000⟩ := by
    unfold WrittenTime.ofParts?
    rw [date]
    exact if_pos ⟨by omega, by omega, minute⟩
  unfold Instant.render
  dsimp only
  rw [known, parseRelaxed?_written month day (by omega) (by omega) (by omega)
    (Nat.mod_lt _ (by decide)), written]
  exact toInstant?_eq wellFormed known.symm

/-! ## Fractions of more than a second -/

/-- Nothing is carried just if more than a second of fraction is in the last second of a minute. -/
theorem carried_eq_self_iff {i : Instant} : i.carried = i ↔ i.Settled := by
  unfold Instant.carried Instant.Settled
  split
  · next carries =>
      constructor
      · intro same
        have seconds := congrArg Instant.seconds same
        dsimp only at seconds
        omega
      · exact fun settled => absurd (settled carries.1) carries.2
  · next stays => exact iff_of_true rfl (by omega)

/-- What is carried stays within the calendar, which ends with a minute. -/
theorem Fits.wellFormed_carried {i : Instant} (fits : i.Fits) : i.carried.WellFormed := by
  have first := fits.first
  have last := fits.last
  have nanos := fits.nanos
  unfold Instant.maxSeconds at last
  unfold Instant.carried
  split
  · refine ⟨⟨?_, ?_, ?_⟩, fun long => ?_⟩
    · dsimp only
      omega
    · unfold Instant.maxSeconds
      dsimp only
      omega
    · dsimp only
      omega
    · dsimp only at long
      omega
  · next stays => exact ⟨fits, fun long => by omega⟩

/-- A text does not tell whether a fraction was carried. -/
theorem Fits.render_carried {i : Instant} (fits : i.Fits) : i.carried.render = i.render := by
  have nanos := fits.nanos
  unfold Instant.carried
  split
  · next carries =>
      obtain ⟨long, inner⟩ := carries
      have day : (i.seconds + 1) / 86400 = i.seconds / 86400 := by omega
      have ofDay : ((i.seconds + 1) % 86400).toNat = (i.seconds % 86400).toNat + 1 := by omega
      have hour : ((i.seconds % 86400).toNat + 1) / 3600 = (i.seconds % 86400).toNat / 3600 := by
        omega
      have minute : ((i.seconds % 86400).toNat + 1) / 60 = (i.seconds % 86400).toNat / 60 := by
        omega
      have second : ((i.seconds % 86400).toNat + 1) % 60 = (i.seconds % 86400).toNat % 60 + 1 := by
        omega
      have fraction : (i.nanos - 1000000000) % 1000000000 = i.nanos % 1000000000 := by omega
      have short : ¬ 1000000000 ≤ i.nanos - 1000000000 := by omega
      unfold Instant.render
      dsimp only
      rw [day, ofDay, hour, minute, fraction, if_neg short, if_pos long, second]
  · rfl

/-- An instant is read from its text with its fraction carried. -/
theorem parseRelaxed?_render_carried {i : Instant} (fits : i.Fits) :
    parseRelaxed? i.render = some i.carried := by
  rw [← fits.render_carried]
  exact parseRelaxed?_render fits.wellFormed_carried

/-! ## Instants of raw events -/

/-- An instant of milliseconds is well-formed. -/
theorem wellFormed_ofMillis? {millis : Int} {i : Instant} (known : ofMillis? millis = some i) :
    i.WellFormed := by
  unfold Instant.ofMillis? Instant.ofSeconds? at known
  split at known
  · next inside =>
      cases known
      refine ⟨⟨inside.1, inside.2, ?_⟩, fun long => ?_⟩
      · dsimp only
        omega
      · dsimp only at long
        omega
  · cases known

theorem nanos?_lt {s rest : List Char} (read : nanos? s = some (n, rest)) : n < 1000000000 := by
  have small := takeDigits_lt (s.take 9)
  have short : (takeDigits (s.take 9)).1.length ≤ 9 :=
    Nat.le_trans (length_takeDigits_le _) (List.length_take_le 9 s)
  unfold nanos? at read
  dsimp only at read
  generalize (takeDigits (s.take 9)).1 = digits at small short read
  split at read
  · cases read
  · cases read
    have value : Literal.ofDigits digits < (0 + 1) * 10 ^ digits.length := foldl_digits_lt small 0
    calc
      _ < (0 + 1) * 10 ^ digits.length * 10 ^ (9 - digits.length) :=
        Nat.mul_lt_mul_of_pos_right value (Nat.pow_pos (by decide))
      _ = 10 ^ 9 := by rw [Nat.zero_add, Nat.one_mul, ← Nat.pow_add, Nat.add_sub_cancel' short]

theorem fraction?_lt {s rest : List Char} (read : fraction? s = some (n, rest)) :
    n < 1000000000 := by
  unfold fraction? at read
  split at read
  · exact nanos?_lt read
  · cases read
    decide

/-- An offset is a number of whole minutes. -/
theorem offset?_minutes {between : List Char → Option (List Char)} {s rest : List Char}
    {offset : Int} (read : offset? between s = some (offset, rest)) : offset % 60 = 0 := by
  unfold offset? at read
  split at read
  · split at read
    · cases read
      rfl
    · split at read
      · obtain ⟨⟨hours, _⟩, _, read⟩ := Option.bind_eq_some_iff.mp read
        obtain ⟨_, _, read⟩ := Option.bind_eq_some_iff.mp read
        obtain ⟨⟨minutes, _⟩, _, read⟩ := Option.bind_eq_some_iff.mp read
        dsimp only at read
        split at read
        · cases read
          split <;> omega
        · cases read
      · cases read
  · cases read

/-- The instant of a written time is well-formed. -/
theorem wellFormed_toInstant? {t : WrittenTime} {offset : Int} {i : Instant}
    (nanos : t.nanos < 1000000000) (minutes : offset % 60 = 0)
    (known : t.toInstant? offset = some i) : i.WellFormed := by
  unfold WrittenTime.toInstant? Instant.ofSeconds? at known
  dsimp only at known
  split at known
  · next inside =>
      cases known
      refine ⟨⟨inside.1, inside.2, ?_⟩, fun long => ?_⟩
      · dsimp only
        split <;> omega
      · dsimp only at long ⊢
        split at long <;> omega
  · cases known

/-- The instant of an RFC 3339 text is well formed. -/
theorem wellFormed_parse? {s : String} {i : Instant} (read : parse? s = some i) :
    i.WellFormed := by
  unfold Instant.parse? at read
  obtain ⟨⟨year, _⟩, _, read⟩ := Option.bind_eq_some_iff.mp read
  obtain ⟨_, _, read⟩ := Option.bind_eq_some_iff.mp read
  obtain ⟨⟨month, _⟩, _, read⟩ := Option.bind_eq_some_iff.mp read
  obtain ⟨_, _, read⟩ := Option.bind_eq_some_iff.mp read
  obtain ⟨⟨day, _⟩, _, read⟩ := Option.bind_eq_some_iff.mp read
  obtain ⟨_, _, read⟩ := Option.bind_eq_some_iff.mp read
  obtain ⟨⟨hour, _⟩, _, read⟩ := Option.bind_eq_some_iff.mp read
  obtain ⟨_, _, read⟩ := Option.bind_eq_some_iff.mp read
  obtain ⟨⟨minute, _⟩, _, read⟩ := Option.bind_eq_some_iff.mp read
  obtain ⟨_, _, read⟩ := Option.bind_eq_some_iff.mp read
  obtain ⟨⟨second, _⟩, _, read⟩ := Option.bind_eq_some_iff.mp read
  obtain ⟨⟨nanos, _⟩, fraction, read⟩ := Option.bind_eq_some_iff.mp read
  obtain ⟨⟨offset, _⟩, zone, read⟩ := Option.bind_eq_some_iff.mp read
  dsimp only at read
  split at read
  · obtain ⟨t, written, read⟩ := Option.bind_eq_some_iff.mp read
    have minutes := offset?_minutes zone
    have small := fraction?_lt fraction
    unfold WrittenTime.ofParts? at written
    split at written
    · split at written
      · cases written
        exact wellFormed_toInstant? small minutes read
      · cases written
    · cases written
  · cases read

end Instant

end AlertRelay
