import AlertRelay.Proofs.Enrich.Normalize
import AlertRelay.Proofs.Net.Spelling
import AlertRelay.Proofs.Time.Stamp

/-!
# Which raw events are recognized

A raw event is normalized exactly if its addresses and its time are good: the source is a text that
spells an address, the destination is one too or there is none, and the time is an epoch value
within the calendar or an RFC 3339 text, where the reader of times takes two liberties
(`Stamp.admitted_iff`). What it is normalized to keeps all other members, and has an identifier.
Otherwise the error is that of the first field that is not good (`RawEvent.normalize_recognizes`).
-/

namespace AlertRelay

namespace RawEvent

/-! ## Good values -/

/-- Whether there is no value, or null in its place. -/
def lacksValue : Option Json → Bool
  | none | some .null => true
  | some _ => false

/-- Whether there is no address: the empty text counts as none. -/
def lacksAddress : Option Json → Bool
  | some (.text s) => s.isEmpty
  | value => lacksValue value

/-- A value gives an address if it is a text that spells it, without the blanks around it. -/
inductive GivesAddress : Option Json → Address → Prop
  | text {s : String} {a : Address} (nonempty : s ≠ "") (spelled : a.Spells (trimText s).toList) :
      GivesAddress (some (.text s)) a

/-- The double that a number, or a text of nothing but digits, counts since 1970. -/
inductive Counts : Json → Float → Prop
  | integer (i : Int) : Counts (.integer i) (nearestDoubleOfInt i)
  | real (x : Float) : Counts (.real x) x
  | digits {s : String} (nonempty : s ≠ "") (digits : ∀ c ∈ s.toList, c.isDigit = true) :
      Counts (.text s) (Literal.nearest ⟨false, digitValues s.toList, none, none⟩)

/-- The milliseconds since 1970 of an epoch value: what is too great for seconds counts
milliseconds. -/
def epochMillis (x : Float) : Int :=
  roundToInt ((if millisThreshold < x then x / 1000.0 else x) * 1000.0)

/-- Whether the calendar reaches a number of milliseconds since 1970. -/
def Reaches (millis : Int) : Prop :=
  Instant.minSeconds * 1000 ≤ millis ∧ millis < (Instant.maxSeconds + 1) * 1000

/-- A value gives an instant if it counts milliseconds that the calendar reaches, or is a text that
the reader of RFC 3339 admits, with blanks around it or none. -/
inductive GivesTime : Json → Instant → Prop
  | count {value : Json} {x : Float} (counts : Counts value x) (reached : Reaches (epochMillis x)) :
      GivesTime value ⟨epochMillis x / 1000, (epochMillis x % 1000).toNat * 1000000⟩
  | stamp {s : String} {t : Stamp} (admitted : t.Admitted)
      (spelled : (trimText s).toList = t.chars) :
      GivesTime (.text s) t.instant

end RawEvent

/-- The fields of a raw event that must be good. -/
inductive RawField where
  | source
  | destination
  | time
  deriving DecidableEq

namespace RawField

/-- The fields in the order in which they are looked at. -/
def order : List RawField := [source, destination, time]

/-- The name of the member that holds a field. -/
def name : RawField → String
  | source => "src_ip"
  | destination => "dst_ip"
  | time => "timestamp"

/-- The value of a field. -/
def value? (f : RawField) (raw : RawEvent) : Option Json := Json.member? f.name raw

/-- Whether a field is missing. -/
def isMissing (f : RawField) (raw : RawEvent) : Bool :=
  match f with
  | source | destination => RawEvent.lacksAddress (f.value? raw)
  | time => RawEvent.lacksValue (f.value? raw)

/-- Whether a field is good. Only the destination may be missing. -/
def Good (f : RawField) (raw : RawEvent) : Prop :=
  match f with
  | source => ∃ a, RawEvent.GivesAddress (f.value? raw) a
  | destination => f.isMissing raw = true ∨ ∃ a, RawEvent.GivesAddress (f.value? raw) a
  | time => ∃ value i, f.value? raw = some value ∧ RawEvent.GivesTime value i

/-- The error for a field that is not good. -/
def complaint (f : RawField) (raw : RawEvent) : EnrichmentError :=
  .normalization (if f.isMissing raw then f.name ++ " required" else "invalid " ++ f.name)

end RawField

namespace RawEvent

variable {raw : RawEvent} {fresh : Uuid} {event : Event} {name : String} {value : Option Json}
  {x : Float} {i : Instant} {s : String} {a : Address} {json : Json}

/-! ## Addresses -/

/-- An address is missing, given or an error. -/
theorem address_cases (name : String) (value : Option Json) :
    (lacksAddress value = true ∧ address name value = .ok none) ∨
      (∃ a, GivesAddress value a ∧ address name value = .ok (some a)) ∨
      (lacksAddress value = false ∧ (∀ a, ¬ GivesAddress value a) ∧
        address name value = .error (.normalization ("invalid " ++ name))) := by
  cases value with
  | none => exact .inl ⟨rfl, rfl⟩
  | some json =>
      cases json with
      | null => exact .inl ⟨rfl, rfl⟩
      | text s =>
          unfold lacksAddress RawEvent.address
          by_cases empty : s.isEmpty = true
          · exact .inl ⟨empty, if_pos empty⟩
          · right
            have nonempty : s ≠ "" := fun none => empty (String.isEmpty_iff.mpr none)
            dsimp only
            rw [if_neg empty]
            cases read : Address.parse? (trimText s) with
            | some a => exact .inl ⟨a, .text nonempty (Address.parse?_eq_some_iff.mp read), rfl⟩
            | none =>
                refine .inr ⟨Bool.eq_false_of_not_eq_true empty, fun a gives => ?_, rfl⟩
                cases gives with
                | text _ spelled =>
                    rw [Address.parse?_eq_some_iff.mpr spelled] at read
                    cases read
      | _ => exact .inr (.inr ⟨rfl, nofun, rfl⟩)

/-- The address that is read is the one that the value gives. -/
theorem gives_of_address (read : address name value = .ok (some a)) : GivesAddress value a := by
  rcases address_cases name value with ⟨_, none⟩ | ⟨b, gives, same⟩ | ⟨_, _, failed⟩
  · cases read.symm.trans none
  · cases read.symm.trans same
    exact gives
  · cases read.symm.trans failed

/-! ## Times -/

/-- Milliseconds since 1970 are an instant just if the calendar reaches them. -/
theorem ofMillis?_eq_some_iff {millis : Int} : Instant.ofMillis? millis = some i ↔
    Reaches millis ∧ i = ⟨millis / 1000, (millis % 1000).toNat * 1000000⟩ := by
  have range : Instant.minSeconds ≤ millis / 1000 ∧ millis / 1000 ≤ Instant.maxSeconds ↔
      Reaches millis := by
    unfold Reaches
    omega
  unfold Instant.ofMillis? Instant.ofSeconds?
  rw [← range]
  split
  · next inside =>
      rw [Option.some.injEq]
      exact ⟨fun same => ⟨inside, same.symm⟩, fun same => same.2.symm⟩
  · next outside => exact ⟨nofun, fun same => absurd same.1 outside⟩

/-- A text has a value as digits exactly if it is nothing but digits. -/
theorem digitsValue?_eq_some_iff : digitsValue? s = some x ↔ Counts (.text s) x := by
  constructor
  · intro read
    unfold RawEvent.digitsValue? at read
    split at read
    · cases read
    · next values some_ taken =>
        obtain ⟨cs, digits, text, rfl, _⟩ := takeDigits_spec taken
        rw [List.append_nil] at text
        subst text
        cases read
        refine .digits (fun empty => some_ ?_) digits
        rw [empty]
        rfl
    · cases read
  · intro counts
    cases counts with
    | digits nonempty digits =>
        have taken : takeDigits (s.toList ++ []) = (digitValues s.toList, []) :=
          takeDigits_append digits .nil
        rw [List.append_nil] at taken
        unfold RawEvent.digitsValue?
        rw [taken]
        split
        · next none =>
            have empty := List.map_eq_nil_iff.mp (Prod.mk.inj none).1
            exact absurd (String.toList_eq_nil_iff.mp empty) nonempty
        · next same =>
            cases same
            rfl
        · next other => exact absurd rfl (other _)

/-- There is a hyphen in the text of a time, so it is not a number. -/
theorem hyphen_mem_chars (t : Stamp) : '-' ∈ t.chars :=
  List.mem_append_right _ List.mem_cons_self

theorem mem_of_mem_trimText {c : Char} (among : c ∈ (trimText s).toList) : c ∈ s.toList := by
  unfold trimText trimBlanks dropBlanks at among
  rw [String.toList_ofList, List.mem_reverse] at among
  have inner := (List.dropWhile_sublist isBlank).subset among
  exact (List.dropWhile_sublist isBlank).subset (List.mem_reverse.mp inner)

/-- What is written as RFC 3339 writes it is more than digits. -/
theorem not_counts {t : Stamp} (spelled : (trimText s).toList = t.chars) :
    ¬ Counts (.text s) x := by
  intro counts
  cases counts with
  | digits _ digits =>
      have hyphen := digits '-' (mem_of_mem_trimText (spelled ▸ hyphen_mem_chars t))
      cases hyphen

/-- A value counts one double at most. -/
theorem Counts.unique {y : Float} (one : Counts json x) (other : Counts json y) : x = y := by
  cases one <;> cases other <;> rfl

/-- What a value counts is an instant exactly if the value gives it. -/
theorem Counts.instantOfEpoch?_eq_some_iff (counts : Counts json x) :
    instantOfEpoch? x = some i ↔ GivesTime json i := by
  constructor
  · intro read
    obtain ⟨reached, rfl⟩ := ofMillis?_eq_some_iff.mp read
    exact .count counts reached
  · intro gives
    cases gives with
    | count same reached =>
        rw [counts.unique same]
        exact ofMillis?_eq_some_iff.mpr ⟨reached, rfl⟩
    | stamp _ spelled => exact absurd counts (not_counts spelled)

/-- The time of an event whose instant was looked for. -/
def timeOf : Option Instant → Except EnrichmentError Instant
  | some i => .ok i
  | none => .error (.normalization "invalid timestamp")

/-- The instant of a value that is there is found exactly if the value gives it. -/
theorem time_some (json : Json) (present : lacksValue (some json) = false) :
    ∃ found : Option Instant, (∀ i, found = some i ↔ GivesTime json i) ∧
      time (some json) = timeOf found := by
  cases json with
  | null => cases present
  | integer n => exact ⟨_, fun i => (Counts.integer n).instantOfEpoch?_eq_some_iff, rfl⟩
  | real x => exact ⟨_, fun i => (Counts.real x).instantOfEpoch?_eq_some_iff, rfl⟩
  | text s =>
      -- Digits alone are never taken for RFC 3339, so it does not matter which is tried first.
      cases value : digitsValue? s with
      | some x =>
          have counts := digitsValue?_eq_some_iff.mp value
          refine ⟨instantOfEpoch? x, fun i => counts.instantOfEpoch?_eq_some_iff, ?_⟩
          simp only [RawEvent.time, value]
          cases instantOfEpoch? x <;> rfl
      | none =>
          refine ⟨Instant.parse? (trimText s), fun i => ⟨fun read => ?_, fun gives => ?_⟩, ?_⟩
          · obtain ⟨t, admitted, spelled, rfl⟩ := Instant.parse?_eq_some_iff.mp read
            exact .stamp admitted spelled
          · cases gives with
            | count counts _ =>
                rw [digitsValue?_eq_some_iff.mpr counts] at value
                cases value
            | stamp admitted spelled =>
                exact Instant.parse?_eq_some_iff.mpr ⟨_, admitted, spelled, rfl⟩
          · simp only [RawEvent.time, value]
            cases Instant.parse? (trimText s) <;> rfl
  | _ =>
      refine ⟨none, fun i => ⟨nofun, fun gives => ?_⟩, rfl⟩
      cases gives with
      | count counts => cases counts

/-- A time is missing, given or an error. -/
theorem time_cases (value : Option Json) :
    (lacksValue value = true ∧ time value = .error (.normalization "timestamp required")) ∨
      (∃ json i, value = some json ∧ GivesTime json i ∧ time value = .ok i) ∨
      (lacksValue value = false ∧ (∀ json i, value = some json → ¬ GivesTime json i) ∧
        time value = .error (.normalization "invalid timestamp")) := by
  cases value with
  | none => exact .inl ⟨rfl, rfl⟩
  | some json =>
      cases lacks : lacksValue (some json) with
      | true =>
          cases json with
          | null => exact .inl ⟨rfl, rfl⟩
          | _ => cases lacks
      | false =>
          obtain ⟨found, gives, read⟩ := time_some json lacks
          right
          cases found with
          | some i => exact .inl ⟨json, i, rfl, (gives i).mp rfl, read⟩
          | none =>
              refine .inr ⟨rfl, ?_, read⟩
              rintro _ i ⟨⟩ given
              cases (gives i).mpr given

/-! ## Identifiers -/

theorem ofList_ne_empty {cs : List Char} (some_ : cs ≠ []) : String.ofList cs ≠ "" := by
  intro empty
  have none := congrArg String.toList empty
  rw [String.toList_ofList] at none
  exact some_ none

theorem positional_ne_nil (wholePoint : Bool) (d : Decimal) : d.positional wholePoint ≠ [] := by
  have digits : d.digitText ≠ [] := Nat.toDigits_ne_nil
  unfold Decimal.positional
  dsimp only
  split
  · rw [List.append_assoc]
    exact List.append_ne_nil_of_left_ne_nil digits _
  · split
    · exact List.append_ne_nil_of_right_ne_nil _ (List.cons_ne_nil _ _)
    · exact List.cons_ne_nil _ _

/-- No layout writes a decimal as nothing. -/
theorem decimalText_ne_nil (layout : NumberLayout) (d : Decimal) : layout.decimalText d ≠ [] := by
  have scientific : d.scientific ≠ [] :=
    List.append_ne_nil_of_right_ne_nil _ (List.cons_ne_nil _ _)
  unfold NumberLayout.decimalText
  split
  · exact positional_ne_nil _ d
  · split
    · exact positional_ne_nil _ d
    · exact scientific

/-- The text of a double is not empty. -/
theorem jsonText_ne_empty (b : Binary64) : b.jsonText ≠ "" := by
  cases b with
  | nan | infinite _ =>
      change "null" ≠ ""
      decide
  | finite negative significand exponent =>
      change NumberLayout.json.finiteText negative significand exponent ≠ ""
      unfold NumberLayout.finiteText
      apply ofList_ne_empty
      split
      · exact List.cons_ne_nil _ _
      · split
        · exact decimalText_ne_nil _ _
        · exact decimalText_ne_nil _ _

theorem toString_int_ne_empty (n : Int) : toString n ≠ "" := by
  cases n with
  | ofNat n => exact ofList_ne_empty Nat.toDigits_ne_nil
  | negSucc n =>
      intro empty
      have none := congrArg String.toList empty
      change ("-" ++ (n + 1).repr).toList = [] at none
      rw [String.toList_append] at none
      cases none

theorem render_ne_empty (u : Uuid) : u.render ≠ "" :=
  ofList_ne_empty (List.append_ne_nil_of_right_ne_nil _ (List.cons_ne_nil _ _))

/-- An event always has an identifier. -/
theorem identifier_ne_empty (fresh : Uuid) (value : Option Json) : identifier fresh value ≠ "" := by
  cases value with
  | none => exact render_ne_empty fresh
  | some json =>
      cases json with
      | text s =>
          change (if (trimText s).isEmpty then fresh.render else trimText s) ≠ ""
          split
          · exact render_ne_empty fresh
          · next given => exact fun empty => given (String.isEmpty_iff.mpr empty)
      | integer n =>
          change toString n ≠ ""
          exact toString_int_ne_empty n
      | real x =>
          change (Binary64.ofFloat x).jsonText ≠ ""
          exact jsonText_ne_empty _
      | null | bool _ | list _ | object _ =>
          change fresh.render ≠ ""
          exact render_ne_empty fresh

/-! ## Raw events -/

/-- What gives an address is not missing. -/
theorem GivesAddress.there (gives : GivesAddress value a) : lacksAddress value = false := by
  cases gives with
  | text nonempty =>
      exact Bool.eq_false_of_not_eq_true fun empty => nonempty (String.isEmpty_iff.mp empty)

theorem GivesTime.there (gives : GivesTime json i) : lacksValue (some json) = false := by
  cases gives with
  | count counts => cases counts <;> rfl
  | stamp => rfl

/-- The source is good and read, or the event is refused with the complaint about it. -/
theorem source_cases (raw : RawEvent) (fresh : Uuid) :
    (RawField.source.Good raw ∧
        ∃ a, address "src_ip" (Json.member? "src_ip" raw) = .ok (some a)) ∨
      (¬ RawField.source.Good raw ∧
        raw.normalize fresh = .error (RawField.source.complaint raw)) := by
  rcases address_cases "src_ip" (Json.member? "src_ip" raw) with
    ⟨lacks, read⟩ | ⟨a, gives, read⟩ | ⟨there, bad, read⟩
  · right
    constructor
    · rintro ⟨a, gives⟩
      cases lacks.symm.trans gives.there
    · have missing : RawField.source.isMissing raw = true := lacks
      unfold RawEvent.normalize
      rw [read, RawField.complaint, if_pos missing]
      rfl
  · exact .inl ⟨⟨a, gives⟩, a, read⟩
  · refine .inr ⟨fun ⟨a, gives⟩ => bad a gives, ?_⟩
    have given : ¬ RawField.source.isMissing raw = true := Bool.eq_false_iff.mp there
    unfold RawEvent.normalize
    rw [read, RawField.complaint, if_neg given]
    rfl

theorem destination_cases (raw : RawEvent) :
    (RawField.destination.Good raw ∧
        ∃ found, address "dst_ip" (Json.member? "dst_ip" raw) = .ok found) ∨
      (¬ RawField.destination.Good raw ∧ address "dst_ip" (Json.member? "dst_ip" raw) =
        .error (RawField.destination.complaint raw)) := by
  rcases address_cases "dst_ip" (Json.member? "dst_ip" raw) with
    ⟨lacks, read⟩ | ⟨a, gives, read⟩ | ⟨there, bad, read⟩
  · exact .inl ⟨.inl lacks, none, read⟩
  · exact .inl ⟨.inr ⟨a, gives⟩, some a, read⟩
  · have given : ¬ RawField.destination.isMissing raw = true := Bool.eq_false_iff.mp there
    refine .inr ⟨?_, ?_⟩
    · rintro (missing | ⟨a, gives⟩)
      · exact given missing
      · exact bad a gives
    · rw [read, RawField.complaint, if_neg given]
      rfl

theorem timestamp_cases (raw : RawEvent) :
    (RawField.time.Good raw ∧ ∃ i, time (Json.member? "timestamp" raw) = .ok i) ∨
      (¬ RawField.time.Good raw ∧ time (Json.member? "timestamp" raw) =
        .error (RawField.time.complaint raw)) := by
  rcases time_cases (Json.member? "timestamp" raw) with
    ⟨lacks, read⟩ | ⟨json, i, given, gives, read⟩ | ⟨there, bad, read⟩
  · have missing : RawField.time.isMissing raw = true := lacks
    refine .inr ⟨?_, ?_⟩
    · rintro ⟨json, i, given, gives⟩
      change Json.member? "timestamp" raw = some json at given
      rw [given] at lacks
      cases lacks.symm.trans gives.there
    · rw [read, RawField.complaint, if_pos missing]
      rfl
  · exact .inl ⟨⟨json, i, given, gives⟩, i, read⟩
  · have given : ¬ RawField.time.isMissing raw = true := Bool.eq_false_iff.mp there
    refine .inr ⟨fun ⟨json, i, known, gives⟩ => bad json i known gives, ?_⟩
    rw [read, RawField.complaint, if_neg given]
    rfl

/-- Either all fields are good and the event is normalized, or the first that is not is complained
of. -/
theorem normalize_cases (raw : RawEvent) (fresh : Uuid) :
    ((∀ f : RawField, f.Good raw) ∧ ∃ event, raw.normalize fresh = .ok event) ∨
      ∃ before f after, RawField.order = before ++ f :: after ∧ (∀ g ∈ before, g.Good raw) ∧
        ¬ f.Good raw ∧ raw.normalize fresh = .error (f.complaint raw) := by
  rcases source_cases raw fresh with ⟨source, a, sourced⟩ | ⟨bad, complains⟩
  · rcases destination_cases raw with ⟨destination, found, addressed⟩ | ⟨bad, read⟩
    · rcases timestamp_cases raw with ⟨time, i, timed⟩ | ⟨bad, read⟩
      · left
        constructor
        · intro f
          cases f with
          | source => exact source
          | destination => exact destination
          | time => exact time
        · unfold RawEvent.normalize
          rw [sourced, addressed, timed]
          exact ⟨_, rfl⟩
      · refine .inr ⟨[.source, .destination], .time, [], rfl, ?_, bad, ?_⟩
        · exact List.forall_mem_cons.mpr ⟨source, List.forall_mem_singleton.mpr destination⟩
        · unfold RawEvent.normalize
          rw [sourced, addressed, read]
          rfl
    · refine .inr ⟨[.source], .destination, [.time], rfl, ?_, bad, ?_⟩
      · exact List.forall_mem_singleton.mpr source
      · unfold RawEvent.normalize
        rw [sourced, read]
        rfl
  · exact .inr ⟨[], .source, _, rfl, nofun, bad, complains⟩

/-- The members that are kept are those of other names, as they were. -/
theorem extra_normalize (normalized : raw.normalize fresh = .ok event) :
    event.extra.Sublist raw ∧ ∀ member, member ∈ event.extra ↔
      member ∈ raw ∧ member.1 ∉ ["id", "src_ip", "dst_ip", "user_id", "timestamp"] := by
  obtain ⟨_, _, _, _, extra⟩ := normalize_ok normalized
  rw [extra]
  refine ⟨List.filter_sublist, fun member => ?_⟩
  have same : member.1 ∈ recognized ↔
      member.1 ∈ ["id", "src_ip", "dst_ip", "user_id", "timestamp"] :=
    (List.Perm.mem_iff (by decide))
  rw [List.mem_filter, ← same, Bool.not_eq_true', ← Bool.not_eq_true, List.contains_iff_mem]

/-- An event holds what the fields of the raw event give. -/
theorem given_normalize (normalized : raw.normalize fresh = .ok event) :
    GivesAddress (RawField.source.value? raw) event.source ∧
      (∀ a, event.destination = some a → GivesAddress (RawField.destination.value? raw) a) ∧
      ∃ json, RawField.time.value? raw = some json ∧ GivesTime json event.time := by
  obtain ⟨_, source, destination, time, _⟩ := normalize_ok normalized
  refine ⟨gives_of_address source, fun a is => gives_of_address (is ▸ destination), ?_⟩
  rcases time_cases (Json.member? "timestamp" raw) with
    ⟨_, failed⟩ | ⟨json, i, known, gives, read⟩ | ⟨_, _, failed⟩
  · cases time.symm.trans failed
  · rw [Except.ok.inj (time.symm.trans read)]
    exact ⟨json, known, gives⟩
  · cases time.symm.trans failed

/-- A raw event is normalized exactly if its fields are good. Then it has an identifier, holds what
the fields give, and keeps exactly the members that are not recognized; otherwise the first field
that is not good is complained of, whatever the others are. A time that is written as RFC 3339 is
good; one that is good may differ from RFC 3339 in the minus sign of the offset and in a 60th second
in place of the 59th. -/
theorem normalize_recognizes (raw : RawEvent) (fresh : Uuid) :
    ((∃ event, raw.normalize fresh = .ok event) ↔ ∀ f : RawField, f.Good raw) ∧
      (∀ event, raw.normalize fresh = .ok event →
        event.id ≠ "" ∧ event.extra.Sublist raw ∧ (∀ member, member ∈ event.extra ↔
          member ∈ raw ∧ member.1 ∉ ["id", "src_ip", "dst_ip", "user_id", "timestamp"]) ∧
        GivesAddress (RawField.source.value? raw) event.source ∧
        (∀ a, event.destination = some a → GivesAddress (RawField.destination.value? raw) a) ∧
        ∃ json, RawField.time.value? raw = some json ∧ GivesTime json event.time) ∧
      (∀ cause, raw.normalize fresh = .error cause →
        ∃ before f after, RawField.order = before ++ f :: after ∧ (∀ g ∈ before, g.Good raw) ∧
          ¬ f.Good raw ∧ cause = f.complaint raw) ∧
      ∀ t : Stamp, (t.Standard → t.Admitted) ∧ (t.Admitted ↔ t.plain.Standard) := by
  refine ⟨?_, fun event normalized => ?_, fun cause failed => ?_,
    fun t => ⟨fun standard => standard.toAdmitted, t.admitted_iff⟩⟩
  · rcases normalize_cases raw fresh with ⟨good, normalized⟩ | ⟨_, f, _, _, _, bad, failed⟩
    · exact ⟨fun _ => good, fun _ => normalized⟩
    · refine ⟨fun ⟨event, normalized⟩ => ?_, fun good => absurd (good f) bad⟩
      cases failed.symm.trans normalized
  · obtain ⟨kept, exactly⟩ := extra_normalize normalized
    refine ⟨?_, kept, exactly, given_normalize normalized⟩
    rw [(normalize_ok normalized).1]
    exact identifier_ne_empty _ _
  · rcases normalize_cases raw fresh with
      ⟨_, _, normalized⟩ | ⟨before, f, after, cut, good, bad, known⟩
    · cases failed.symm.trans normalized
    · exact ⟨before, f, after, cut, good, bad, Except.error.inj (failed.symm.trans known)⟩

/-- The 60th second of a minute that cannot have a leap second is not RFC 3339, but recognized. -/
theorem recognizes_second_sixty :
    let text := "2024-05-01T12:34:60Z"
    let raw : RawEvent := [("src_ip", .text "10.1.2.3"), ("timestamp", .text text)]
    (∃ event, raw.normalize ⟨0⟩ = .ok event) ∧
      ∀ t : Stamp, (trimText text).toList = t.chars → ¬ t.Standard := by
  intro text raw
  have read : Instant.parse? text = some ⟨1714566899, 1000000000⟩ := by decide +kernel
  have trimmed : trimText text = text := by decide +kernel
  have accepted : (raw.normalize ⟨0⟩).toOption.isSome = true := by decide +kernel
  constructor
  · cases normalized : raw.normalize ⟨0⟩ with
    | ok event => exact ⟨event, rfl⟩
    | error cause =>
        rw [normalized] at accepted
        cases accepted
  · intro t spelled standard
    have same : t.instant = ⟨1714566899, 1000000000⟩ := by
      have parsed := standard.toAdmitted.parse?_chars
      rw [← spelled, String.ofList_toList, trimmed, read] at parsed
      exact (Option.some.inj parsed).symm
    have late : t.second = 60 := by
      by_contra earlier
      have nanos : Stamp.nanosOf t.fraction = 1000000000 := by
        have := congrArg Instant.nanos same
        rwa [Stamp.instant, if_neg earlier] at this
      exact absurd (Stamp.nanosOf_lt standard.fraction) (by omega)
    have midnight := (standard.leap late).1
    rw [same] at midnight
    cases midnight

/-- The time is missing too, but the destination comes before it. -/
example (fresh : Uuid) :
    normalize fresh [("dst_ip", .text "10.0.0.256"), ("src_ip", .text " 10.0.0.1 ")] =
      .error (.normalization "invalid dst_ip") := rfl

end RawEvent

end AlertRelay
