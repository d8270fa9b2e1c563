import AlertRelay.Proofs.Number.Numerals
import AlertRelay.Proofs.Time.Written

/-!
# What texts spell a time

The texts of RFC 3339 are given by their parts (`Stamp.Standard`): a date of the calendar, a time of
day, any number of digits after the point of the second, and an offset. The strict reader admits
more (`Stamp.Admitted`): the second may be the 60th of any minute, not only of one that may have a
leap second, and the minus sign of an offset may be the typographic one. These are the only
liberties it takes (`Stamp.admitted_iff`). It reads exactly the texts that it admits, each for the
instant that its parts stand for (`Instant.parse?_eq_some_iff`).
-/

namespace AlertRelay

/-- How the offset of a time is written: a mark for none, or a sign, hours and minutes. -/
inductive Zone where
  | utc (mark : Char)
  | shifted (sign : Char) (hours minutes : Nat)

namespace Zone

/-- The characters of an offset. -/
def chars : Zone → List Char
  | utc mark => [mark]
  | shifted sign hours minutes => sign :: (padded 2 hours ++ ':' :: padded 2 minutes)

/-- The seconds by which a time is ahead of UTC. -/
def offset : Zone → Int
  | utc _ => 0
  | shifted sign hours minutes =>
    if sign = '+' then hours * 3600 + minutes * 60 else -(hours * 3600 + minutes * 60 : Int)

/-- Whether an offset is one of RFC 3339. -/
def Standard : Zone → Prop
  | utc mark => mark = 'Z' ∨ mark = 'z'
  | shifted sign hours minutes => (sign = '+' ∨ sign = '-') ∧ hours < 24 ∧ minutes < 60

/-- Whether an offset is one that the reader admits: the minus sign may be the typographic one. -/
def Admitted : Zone → Prop
  | utc mark => mark = 'Z' ∨ mark = 'z'
  | shifted sign hours minutes =>
    (sign = '+' ∨ sign = '-' ∨ sign = '\u2212') ∧ hours < 24 ∧ minutes < 60

/-- The offset with the minus sign of RFC 3339 in place of the typographic one. -/
def plain : Zone → Zone
  | utc mark => utc mark
  | shifted sign hours minutes => shifted (if sign = '\u2212' then '-' else sign) hours minutes

/-- An offset of RFC 3339 is admitted. -/
theorem Standard.admitted {zone : Zone} (standard : zone.Standard) : zone.Admitted := by
  cases zone with
  | utc mark => exact standard
  | shifted sign hours minutes => exact ⟨standard.1.imp_right .inl, standard.2⟩

/-- An offset is admitted if it is one of RFC 3339 but for its minus sign. -/
theorem admitted_iff (zone : Zone) : zone.Admitted ↔ zone.plain.Standard := by
  cases zone with
  | utc mark => rfl
  | shifted sign hours minutes =>
      unfold Zone.Admitted Zone.plain Zone.Standard
      by_cases typographic : sign = '\u2212'
      · simp [typographic]
      · simp [typographic]

end Zone

/-- The parts of a time as RFC 3339 writes it. -/
structure Stamp where
  year : Nat
  month : Nat
  day : Nat
  separator : Char
  hour : Nat
  minute : Nat
  second : Nat
  /-- The digits after the point of the second; without any, there is no point. -/
  fraction : List Char
  zone : Zone

namespace Stamp

/-- The characters of a fraction. -/
def fractionChars (digits : List Char) : List Char :=
  if digits = [] then [] else '.' :: digits

/-- The characters of a text with these parts. -/
def chars (t : Stamp) : List Char :=
  padded 4 t.year ++ '-' :: (padded 2 t.month ++ '-' :: (padded 2 t.day ++ t.separator ::
    (padded 2 t.hour ++ ':' :: (padded 2 t.minute ++ ':' :: (padded 2 t.second ++
      (fractionChars t.fraction ++ t.zone.chars))))))

/-- Whether the reader admits the parts: they name a date of the calendar, a time of day and an
offset. RFC 3339 allows a blank between date and time in a note. -/
structure Admitted (t : Stamp) : Prop where
  year : t.year < 10000
  month : 1 ≤ t.month ∧ t.month ≤ 12
  day : 1 ≤ t.day ∧ t.day ≤ Date.monthLength t.year t.month
  separator : t.separator = 'T' ∨ t.separator = 't' ∨ t.separator = ' '
  hour : t.hour < 24
  minute : t.minute < 60
  second : t.second ≤ 60
  fraction : ∀ c ∈ t.fraction, c.isDigit = true
  zone : t.zone.Admitted

/-- The nanoseconds of the digits of a fraction; only the first nine count. -/
def nanosOf (digits : List Char) : Nat :=
  Literal.ofDigits (digitValues (digits.take 9)) * 10 ^ (9 - digits.length)

/-- The time that the parts stand for, before its offset is taken off. -/
def written (t : Stamp) : WrittenTime :=
  ⟨⟨t.year, t.month, t.day⟩, t.hour, t.minute, t.second, nanosOf t.fraction⟩

/-- The instant that the parts stand for. A 60th second is the 59th with a second of fraction. -/
def instant (t : Stamp) : Instant where
  seconds := (Date.mk t.year t.month t.day).dayNumber * 86400 +
    (t.hour * 3600 + t.minute * 60 + min t.second 59 : Nat) - t.zone.offset
  nanos := if t.second = 60 then nanosOf t.fraction + 1000000000 else nanosOf t.fraction

/-- Whether the minute is the last of a month in UTC, where a leap second may be. -/
def EndsMonth (t : Stamp) : Prop :=
  (t.instant.seconds + 1) % 86400 = 0 ∧ (Date.ofDayNumber ((t.instant.seconds + 1) / 86400)).day = 1

/-- Whether the parts are those of an RFC 3339 text: the second is the 60th only where a leap second
may be, and the offset is one of RFC 3339. -/
structure Standard (t : Stamp) : Prop extends Admitted t where
  leap : t.second = 60 → t.EndsMonth
  offset : t.zone.Standard

/-- The parts with the minus sign of RFC 3339 and without a 60th second. -/
def plain (t : Stamp) : Stamp :=
  { t with second := if t.second = 60 then 59 else t.second, zone := t.zone.plain }

/-- The parts that the reader admits are those of an RFC 3339 text but for the minus sign of the
offset and a 60th second in place of the 59th. -/
theorem admitted_iff (t : Stamp) : t.Admitted ↔ t.plain.Standard := by
  constructor
  · intro admitted
    have offset := (Zone.admitted_iff t.zone).mp admitted.zone
    have second := admitted.second
    have short : t.plain.second ≠ 60 := by
      change (if t.second = 60 then 59 else t.second) ≠ 60
      split <;> omega
    refine ⟨⟨admitted.year, admitted.month, admitted.day, admitted.separator, admitted.hour,
      admitted.minute, ?_, admitted.fraction, offset.admitted⟩, fun last => (short last).elim,
      offset⟩
    change (if t.second = 60 then 59 else t.second) ≤ 60
    split <;> omega
  · intro standard
    have second : (if t.second = 60 then 59 else t.second) ≤ 60 := standard.second
    refine ⟨standard.year, standard.month, standard.day, standard.separator, standard.hour,
      standard.minute, ?_, standard.fraction, (Zone.admitted_iff t.zone).mpr standard.offset⟩
    split at second <;> omega

end Stamp

variable {s rest tail cs : List Char} {n width : Nat}

/-! ## What is read was spelled -/

/-- Digits are those of their number, with as many zeros before them as there is room for. -/
theorem padded_ofDigits (digits : ∀ c ∈ cs, c.isDigit = true) (some_ : cs ≠ []) :
    padded cs.length (Literal.ofDigits (digitValues cs)) = cs := by
  obtain ⟨zeros, text⟩ := eq_zeros_append digits some_
  generalize Literal.ofDigits (digitValues cs) = n at text
  have count : cs.length = zeros + (Nat.toDigits 10 n).length := by
    rw [text, List.length_append, List.length_replicate]
  unfold padded
  dsimp only
  rw [count, Nat.add_sub_cancel, ← text]

namespace Instant

/-- A number of so many digits stood at the front of the text. -/
theorem number?_spec (positive : 0 < width) (read : number? width width s = some (n, rest)) :
    n < 10 ^ width ∧ s = padded width n ++ rest := by
  unfold Instant.number? at read
  cases taken : takeDigits (s.take width) with
  | mk values after =>
      obtain ⟨cs, digits, front, rfl, _⟩ := takeDigits_spec taken
      have count : (digitValues cs).length = cs.length := List.length_map _
      rw [taken] at read
      dsimp only at read
      rw [count] at read
      split at read
      · cases read
      · next enough =>
          -- The reader looks at no more than `width` characters, and as many are digits.
          have most := List.length_take_le width s
          rw [front, List.length_append] at most
          have full : cs.length = width := by omega
          have none : after = [] := List.eq_nil_of_length_eq_zero (by omega)
          cases read
          rw [none, List.append_nil] at front
          subst full
          have some_ : cs ≠ [] := List.length_pos_iff.mp positive
          refine ⟨ofDigits_lt digits, ?_⟩
          rw [padded_ofDigits digits some_]
          nth_rewrite 1 [← List.take_append_drop cs.length s]
          rw [front]

/-- A character is read where it stands. -/
theorem char?_spec {c : Char} (read : char? c s = some rest) : s = c :: rest := by
  cases s with
  | nil => cases read
  | cons d after =>
      rw [char?] at read
      split at read
      · next same =>
          cases read
          rw [same]
      · cases read

theorem separator?_spec (read : separator? s = some rest) :
    ∃ c, (c = 'T' ∨ c = 't' ∨ c = ' ') ∧ s = c :: rest := by
  cases s with
  | nil => cases read
  | cons d after =>
      rw [separator?] at read
      split at read
      · next mark =>
          cases read
          exact ⟨d, mark, rfl⟩
      · cases read

/-- Digits after a point are read up to the last one. -/
theorem nanos?_append (digits : ∀ c ∈ cs, c.isDigit = true) (some_ : cs ≠ [])
    (stops : NoDigit tail) : nanos? (cs ++ tail) = some (Stamp.nanosOf cs, tail) := by
  have few : (digitValues (cs.take 9)).length = min 9 cs.length := by
    rw [digitValues, List.length_map, List.length_take]
  have counted : (digitValues (cs.take 9)).isEmpty = false := by
    rw [List.isEmpty_eq_false_iff, ← List.length_pos_iff, few]
    have positive := List.length_pos_iff.mpr some_
    omega
  have left : (cs ++ tail).drop (min 9 cs.length) = cs.drop 9 ++ tail := by
    rw [List.drop_append_of_le_length (Nat.min_le_right _ _)]
    by_cases long : 9 ≤ cs.length
    · rw [Nat.min_eq_left long]
    · rw [Nat.min_eq_right (by omega), List.drop_length, List.drop_eq_nil_of_le (by omega)]
  have passed : takeDigits (cs.drop 9 ++ tail) = (digitValues (cs.drop 9), tail) :=
    takeDigits_append (fun c among => digits c (List.mem_of_mem_drop among)) stops
  have places : 9 - min 9 cs.length = 9 - cs.length := by omega
  unfold Instant.nanos?
  rw [List.take_append,
    takeDigits_append (fun c among => digits c (List.mem_of_mem_take among)) (stops.take _)]
  dsimp only
  rw [counted, few, left, passed, places]
  rfl

theorem nanos?_none (stops : NoDigit s) : nanos? s = none := by
  have read : takeDigits ([] ++ s.take 9) = ([], s.take 9) := takeDigits_append nofun (stops.take 9)
  rw [List.nil_append] at read
  unfold Instant.nanos?
  rw [read]
  rfl

/-- A fraction stood at the front of the text, or none. -/
theorem fraction?_spec (read : fraction? s = some (n, rest)) :
    ∃ cs, (∀ c ∈ cs, c.isDigit = true) ∧ s = Stamp.fractionChars cs ++ rest ∧
      n = Stamp.nanosOf cs := by
  unfold Instant.fraction? at read
  split at read
  · next after =>
      cases taken : takeDigits after with
      | mk values left =>
          obtain ⟨cs, digits, rfl, rfl, stops⟩ := takeDigits_spec taken
          by_cases none : cs = []
          · rw [none, List.nil_append, nanos?_none stops] at read
            cases read
          · rw [nanos?_append digits none stops] at read
            cases read
            exact ⟨cs, digits, by rw [Stamp.fractionChars, if_neg none]; rfl, rfl⟩
  · cases read
    exact ⟨[], nofun, rfl, rfl⟩

/-- An offset stood at the front of the text; it is admitted if RFC 3339 can write as much. -/
theorem offset?_spec {offset : Int} (read : offset? (char? ':') s = some (offset, rest)) :
    ∃ zone : Zone, s = zone.chars ++ rest ∧ offset = zone.offset ∧
      (-maxOffset ≤ offset → offset ≤ maxOffset → zone.Admitted) := by
  unfold Instant.offset? at read
  split at read
  · next c after =>
      split at read
      · next utc =>
          cases read
          exact ⟨.utc c, rfl, rfl, fun _ _ => utc⟩
      · split at read
        · next sign =>
            obtain ⟨⟨hours, _⟩, first, read⟩ := Option.bind_eq_some_iff.mp read
            obtain ⟨_, colon, read⟩ := Option.bind_eq_some_iff.mp read
            obtain ⟨⟨minutes, _⟩, second, read⟩ := Option.bind_eq_some_iff.mp read
            dsimp only at read
            split at read
            · next small =>
                cases read
                obtain ⟨_, rfl⟩ := number?_spec (by decide) first
                obtain ⟨_, rfl⟩ := number?_spec (by decide) second
                refine ⟨.shifted c hours minutes, ?_, rfl, fun least most => ⟨sign, ?_, small⟩⟩
                · rw [char?_spec colon]
                  simp only [Zone.chars, List.cons_append, List.append_assoc]
                · unfold maxOffset at least most
                  by_cases plus : c = '+'
                  · rw [if_pos plus] at most
                    omega
                  · rw [if_neg plus] at least
                    omega
            · cases read
        · cases read
  · cases read

/-- A time that was put together has parts in their ranges. -/
theorem ofParts?_spec {year : Int} {month day hour minute second nanos : Nat} {w : WrittenTime}
    (known : WrittenTime.ofParts? year month day hour minute second nanos = some w) :
    (1 ≤ month ∧ month ≤ 12) ∧ (1 ≤ day ∧ day ≤ Date.monthLength year month) ∧
      (hour < 24 ∧ minute < 60 ∧ second ≤ 60) ∧
      w = ⟨⟨year, month, day⟩, hour, minute, second, nanos⟩ := by
  unfold WrittenTime.ofParts? at known
  cases dated : Date.ofParts? year month day with
  | none =>
      rw [dated] at known
      cases known
  | some date =>
      rw [dated] at known
      dsimp only at known
      unfold Date.ofParts? at dated
      split at dated
      · next calendar =>
          obtain ⟨_, _, january, december, first, last⟩ := calendar
          cases dated
          split at known
          · next clock =>
              cases known
              exact ⟨⟨january, december⟩, ⟨first, last⟩, clock, rfl⟩
          · cases known
      · cases dated

/-- What is read was spelled by parts that the reader admits. -/
theorem stamp_of_parse? {text : String} {i : Instant} (read : parse? text = some i) :
    ∃ t : Stamp, t.Admitted ∧ text.toList = t.chars ∧
      t.written.toInstant? t.zone.offset = some i := by
  unfold Instant.parse? at read
  obtain ⟨⟨year, _⟩, yearRead, read⟩ := Option.bind_eq_some_iff.mp read
  obtain ⟨_, dash, read⟩ := Option.bind_eq_some_iff.mp read
  obtain ⟨⟨month, _⟩, monthRead, read⟩ := Option.bind_eq_some_iff.mp read
  obtain ⟨_, dash', read⟩ := Option.bind_eq_some_iff.mp read
  obtain ⟨⟨day, _⟩, dayRead, read⟩ := Option.bind_eq_some_iff.mp read
  obtain ⟨_, mark, read⟩ := Option.bind_eq_some_iff.mp read
  obtain ⟨⟨hour, _⟩, hourRead, read⟩ := Option.bind_eq_some_iff.mp read
  obtain ⟨_, colon, read⟩ := Option.bind_eq_some_iff.mp read
  obtain ⟨⟨minute, _⟩, minuteRead, read⟩ := Option.bind_eq_some_iff.mp read
  obtain ⟨_, colon', read⟩ := Option.bind_eq_some_iff.mp read
  obtain ⟨⟨second, _⟩, secondRead, read⟩ := Option.bind_eq_some_iff.mp read
  obtain ⟨⟨nanos, _⟩, fractionRead, read⟩ := Option.bind_eq_some_iff.mp read
  obtain ⟨⟨offset, _⟩, zoneRead, read⟩ := Option.bind_eq_some_iff.mp read
  dsimp only at read
  split at read
  · next inside =>
      obtain ⟨least, most, ended⟩ := inside
      obtain ⟨w, written, read⟩ := Option.bind_eq_some_iff.mp read
      obtain ⟨zone, zoneText, rfl, zoneAdmitted⟩ := offset?_spec zoneRead
      obtain ⟨fraction, digits, fractionText, rfl⟩ := fraction?_spec fractionRead
      obtain ⟨separator, separates, separatorText⟩ := separator?_spec mark
      obtain ⟨yearFits, yearText⟩ := number?_spec (by decide) yearRead
      obtain ⟨_, monthText⟩ := number?_spec (by decide) monthRead
      obtain ⟨_, dayText⟩ := number?_spec (by decide) dayRead
      obtain ⟨_, hourText⟩ := number?_spec (by decide) hourRead
      obtain ⟨_, minuteText⟩ := number?_spec (by decide) minuteRead
      obtain ⟨_, secondText⟩ := number?_spec (by decide) secondRead
      rw [List.isEmpty_iff.mp ended, List.append_nil] at zoneText
      obtain ⟨inYear, inMonth, ⟨inDay, inHour, inMinute⟩, rfl⟩ := ofParts?_spec written
      refine ⟨⟨year, month, day, separator, hour, minute, second, fraction, zone⟩,
        ⟨yearFits, inYear, inMonth, separates, inDay, inHour, inMinute, digits,
          zoneAdmitted least most⟩, ?_, read⟩
      rw [yearText, char?_spec dash, monthText, char?_spec dash', dayText, separatorText, hourText,
        char?_spec colon, minuteText, char?_spec colon', secondText, fractionText, zoneText]
      rfl
  · cases read

/-! ## What is spelled is read -/

/-- The digits of a fraction are read as nanoseconds. -/
theorem fraction?_append (digits : ∀ c ∈ cs, c.isDigit = true) (stops : NoDigit tail)
    (point : tail.head? ≠ some '.') :
    fraction? (Stamp.fractionChars cs ++ tail) = some (Stamp.nanosOf cs, tail) := by
  by_cases none : cs = []
  · subst none
    change fraction? tail = some (0, tail)
    unfold Instant.fraction?
    split
    · exact absurd rfl point
    · rfl
  · rw [Stamp.fractionChars, if_neg none]
    exact nanos?_append digits none stops

end Instant

namespace Zone

variable {zone : Zone}

/-- An offset does not begin with a digit or a point. -/
theorem Admitted.begins (admitted : zone.Admitted) :
    NoDigit zone.chars ∧ zone.chars.head? ≠ some '.' := by
  cases zone with
  | utc mark => rcases admitted with rfl | rfl <;> exact ⟨.cons rfl, nofun⟩
  | shifted sign hours minutes =>
      rcases admitted.1 with rfl | rfl | rfl <;> exact ⟨.cons rfl, nofun⟩

/-- The offset of a zone is less than a day. -/
theorem Admitted.offset_range (admitted : zone.Admitted) :
    -Instant.maxOffset ≤ zone.offset ∧ zone.offset ≤ Instant.maxOffset := by
  unfold Instant.maxOffset
  cases zone with
  | utc mark =>
      change -((23 * 60 + 59) * 60) ≤ (0 : Int) ∧ (0 : Int) ≤ (23 * 60 + 59) * 60
      decide
  | shifted sign hours minutes =>
      obtain ⟨_, day, hour⟩ := admitted
      unfold Zone.offset
      dsimp only
      split <;> omega

/-- An offset is read from its text. -/
theorem Admitted.offset?_chars (admitted : zone.Admitted) :
    Instant.offset? (Instant.char? ':') zone.chars = some (zone.offset, []) := by
  cases zone with
  | utc mark => exact if_pos admitted
  | shifted sign hours minutes =>
      obtain ⟨marked, day, hour⟩ := admitted
      have other : ¬ (sign = 'Z' ∨ sign = 'z') := by
        rcases marked with rfl | rfl | rfl <;> decide
      have first : Instant.number? 2 2 (padded 2 hours ++ ':' :: padded 2 minutes) =
          some (hours, ':' :: padded 2 minutes) :=
        Instant.number?_padded (by decide) (by omega) (by decide)
      have second : Instant.number? 2 2 (padded 2 minutes ++ []) = some (minutes, []) :=
        Instant.number?_padded (by decide) (by omega) (by decide)
      have colon : Instant.char? ':' (':' :: padded 2 minutes) = some (padded 2 minutes) := rfl
      rw [List.append_nil] at second
      unfold Instant.offset? Zone.chars
      dsimp only
      rw [if_neg other, if_pos marked, Instant.bind_eq first, Instant.bind_eq colon,
        Instant.bind_eq second]
      exact if_pos hour

end Zone

namespace Stamp

variable {t : Stamp}

/-- A fraction is less than a second. -/
theorem nanosOf_lt (digits : ∀ c ∈ cs, c.isDigit = true) : nanosOf cs < 1000000000 := by
  have first := ofDigits_lt fun c among => digits c (List.mem_of_mem_take (i := 9) among)
  have few : (cs.take 9).length = min 9 cs.length := List.length_take
  rw [few] at first
  have whole : 10 ^ min 9 cs.length * 10 ^ (9 - cs.length) = 1000000000 := by
    rw [← Nat.pow_add, show min 9 cs.length + (9 - cs.length) = 9 by omega]
  unfold Stamp.nanosOf
  rw [← whole]
  exact Nat.mul_lt_mul_of_pos_right first (Nat.pow_pos (by decide))

/-- The day of a time that is admitted is in the range of the calendar. -/
theorem Admitted.dayNumber_range (admitted : t.Admitted) :
    -800000 ≤ (Date.mk t.year t.month t.day).dayNumber ∧
      (Date.mk t.year t.month t.day).dayNumber ≤ 3000000 := by
  have year := admitted.year
  have month := admitted.month
  have day := admitted.day
  have longest := Date.monthLength_le t.year t.month
  unfold Date.dayNumber
  dsimp only
  constructor
  · split <;> split <;> omega
  · split <;> split <;> omega

/-- Instants reach every time that the parts of a text stand for. -/
theorem Admitted.toInstant? (admitted : t.Admitted) :
    t.written.toInstant? t.zone.offset = some t.instant := by
  have days := admitted.dayNumber_range
  have offset := admitted.zone.offset_range
  have hour := admitted.hour
  have minute := admitted.minute
  have first : Instant.minSeconds ≤ -1000000000000 := by decide
  have last : 1000000000000 ≤ Instant.maxSeconds := by decide
  unfold Instant.maxOffset at offset
  refine if_pos ⟨?_, ?_⟩
  · dsimp only [Stamp.written]
    omega
  · dsimp only [Stamp.written]
    omega

/-- A time that is admitted is put together from its parts. -/
theorem Admitted.ofParts? (admitted : t.Admitted) :
    WrittenTime.ofParts? t.year t.month t.day t.hour t.minute t.second (nanosOf t.fraction) =
      some t.written := by
  have year := admitted.year
  have reached : Date.minYear ≤ t.year ∧ t.year ≤ Date.maxYear := by
    unfold Date.minYear Date.maxYear
    omega
  have date : Date.ofParts? t.year t.month t.day = some ⟨t.year, t.month, t.day⟩ :=
    if_pos ⟨reached.1, reached.2, admitted.month.1, admitted.month.2, admitted.day.1,
      admitted.day.2⟩
  unfold WrittenTime.ofParts?
  rw [date]
  exact if_pos ⟨admitted.hour, admitted.minute, admitted.second⟩

/-- The parts of a text are read one after the other. -/
theorem Admitted.parse?_chars (admitted : t.Admitted) :
    Instant.parse? (String.ofList t.chars) = some t.instant := by
  have two : ∀ {n : Nat} {tail : List Char}, n < 100 →
      Instant.number? 2 2 (padded 2 n ++ tail) = some (n, tail) := fun fits =>
    Instant.number?_padded (by decide) fits (by decide)
  have year : ∀ tail, Instant.number? 4 4 (padded 4 t.year ++ tail) = some (t.year, tail) :=
    fun _ => Instant.number?_padded (by decide) admitted.year (by decide)
  have month : t.month < 100 := by have := admitted.month; omega
  have day : t.day < 100 := by
    have first := admitted.day
    have longest := Date.monthLength_le t.year t.month
    omega
  have hour : t.hour < 100 := by have := admitted.hour; omega
  have minute : t.minute < 100 := by have := admitted.minute; omega
  have second : t.second < 100 := by have := admitted.second; omega
  have mark : ∀ c tail, Instant.char? c (c :: tail) = some tail := fun _ _ => if_pos rfl
  have separator : ∀ tail, Instant.separator? (t.separator :: tail) = some tail :=
    fun _ => if_pos admitted.separator
  obtain ⟨digit, point⟩ := admitted.zone.begins
  obtain ⟨least, most⟩ := admitted.zone.offset_range
  unfold Instant.parse?
  simp only [String.toList_ofList, Stamp.chars]
  rw [Instant.bind_eq (year _), Instant.bind_eq (mark _ _), Instant.bind_eq (two month),
    Instant.bind_eq (mark _ _), Instant.bind_eq (two day), Instant.bind_eq (separator _),
    Instant.bind_eq (two hour), Instant.bind_eq (mark _ _), Instant.bind_eq (two minute),
    Instant.bind_eq (mark _ _), Instant.bind_eq (two second),
    Instant.bind_eq (Instant.fraction?_append admitted.fraction digit point),
    Instant.bind_eq admitted.zone.offset?_chars]
  dsimp only
  rw [if_pos ⟨least, most, rfl⟩, Instant.bind_eq admitted.ofParts?]
  exact admitted.toInstant?

end Stamp

/-- A text is read as the instant that its parts stand for, and as none if it has no parts that the
reader admits. -/
theorem Instant.parse?_eq_some_iff {text : String} {i : Instant} :
    parse? text = some i ↔ ∃ t : Stamp, t.Admitted ∧ text.toList = t.chars ∧ t.instant = i := by
  constructor
  · intro read
    obtain ⟨t, admitted, spelled, known⟩ := stamp_of_parse? read
    rw [admitted.toInstant?] at known
    exact ⟨t, admitted, spelled, Option.some.inj known⟩
  · rintro ⟨t, admitted, spelled, rfl⟩
    rw [← String.ofList_toList (s := text), spelled]
    exact admitted.parse?_chars

end AlertRelay
