import AlertRelay.Net.Address
import AlertRelay.Proofs.Number.Numerals

/-!
# Reading the parts of addresses

The readers of bytes and of groups take what stands at the front of a text and nothing else
(`fourBytes?_spec`, `group?_spec`), and find what was put there (`fourBytes?_bytesText`,
`group?_append`). After a group, only a colon or the end of the text lets the reader go on to the
next one (`readGroups_group`) or stop (`readGroups_ends`).
-/

namespace AlertRelay

namespace Address

/-- Whether the parts of an address have one or two bytes each, and there are as many as there
should be. -/
def Valid : Address → Prop
  | v4 a b c d => a < 256 ∧ b < 256 ∧ c < 256 ∧ d < 256
  | v6 groups => groups.length = 8 ∧ ∀ g ∈ groups, g < 65536

variable {s rest cs tail : List Char} {a b c d n room : Nat} {values : List Nat} {first : Bool}

/-! ## Bytes -/

/-- A byte stood at the front of the text, without zeros before its digits. -/
theorem byte?_spec (read : byte? s = some (n, rest)) :
    n < 256 ∧ s = Nat.toDigits 10 n ++ rest := by
  unfold byte? at read
  split at read
  · cases read
  · cases read
  · next digits _ some_ plain taken =>
      dsimp only at read
      split at read
      · next bound =>
          cases read
          obtain ⟨cs, isDigit, rfl, rfl, _⟩ := takeDigits_spec taken
          have nonempty : cs ≠ [] := fun none => some_ (by rw [none]; rfl)
          refine ⟨bound.2, ?_⟩
          rw [← eq_toDigits isDigit nonempty fun d others zero => plain d others zero]
      · cases read

theorem mark?_spec {c : Char} (read : mark? c s = some rest) : s = c :: rest := by
  cases s with
  | nil => cases read
  | cons d after =>
      rw [mark?] at read
      split at read
      · next same =>
          cases read
          rw [same]
      · cases read

/-- Four bytes stood at the front of the text. -/
theorem fourBytes?_spec (read : fourBytes? s = some ((a, b, c, d), rest)) :
    (v4 a b c d).Valid ∧ s = bytesText a b c d ++ rest := by
  unfold fourBytes? at read
  obtain ⟨⟨a, _⟩, first, read⟩ := Option.bind_eq_some_iff.mp read
  obtain ⟨_, point, read⟩ := Option.bind_eq_some_iff.mp read
  obtain ⟨⟨b, _⟩, second, read⟩ := Option.bind_eq_some_iff.mp read
  obtain ⟨_, point', read⟩ := Option.bind_eq_some_iff.mp read
  obtain ⟨⟨c, _⟩, third, read⟩ := Option.bind_eq_some_iff.mp read
  obtain ⟨_, point'', read⟩ := Option.bind_eq_some_iff.mp read
  obtain ⟨⟨d, _⟩, fourth, read⟩ := Option.bind_eq_some_iff.mp read
  cases read
  obtain ⟨ha, textA⟩ := byte?_spec first
  obtain ⟨hb, textB⟩ := byte?_spec second
  obtain ⟨hc, textC⟩ := byte?_spec third
  obtain ⟨hd, textD⟩ := byte?_spec fourth
  refine ⟨⟨ha, hb, hc, hd⟩, ?_⟩
  rw [textA, mark?_spec point, textB, mark?_spec point', textC, mark?_spec point'', textD,
    bytesText]
  simp only [List.append_assoc, List.cons_append]

theorem mark?_self (c : Char) (rest : List Char) : mark? c (c :: rest) = some rest := by
  rw [mark?, if_pos rfl]

/-- A byte is read from its decimal digits. -/
theorem byte?_toDigits (small : n < 256) (stops : NoDigit tail) :
    byte? (Nat.toDigits 10 n ++ tail) = some (n, tail) := by
  have read := takeDigits_toDigits n stops
  have short : (digitValues (Nat.toDigits 10 n)).length ≤ 3 := by
    unfold digitValues
    rw [List.length_map]
    exact (Nat.length_toDigits_le_iff (by decide) (by decide)).mpr (by omega)
  unfold byte?
  rw [read]
  split
  · next empty => exact absurd (Prod.mk.inj empty).1 (toDigits_ne_nil n)
  · next zero => exact absurd (Prod.mk.inj zero).1 (toDigits_ne_zero_cons n _ _)
  · next digits rest _ _ same =>
      cases same
      rw [ofDigits_toDigits]
      exact if_pos ⟨short, small⟩

/-- Four bytes are read from their text. -/
theorem fourBytes?_bytesText (valid : (v4 a b c d).Valid) (stops : NoDigit tail) :
    fourBytes? (bytesText a b c d ++ tail) = some ((a, b, c, d), tail) := by
  obtain ⟨ha, hb, hc, hd⟩ := valid
  have dot : ∀ text, NoDigit ('.' :: text) := fun text => .cons rfl
  unfold fourBytes? bytesText
  simp only [List.append_assoc, List.cons_append, Option.bind_eq_bind, Option.bind_some, mark?_self,
    byte?_toDigits ha (dot _), byte?_toDigits hb (dot _), byte?_toDigits hc (dot _),
    byte?_toDigits hd stops]
  rfl

/-- Whether a text does not begin with a point. -/
def NoPoint (s : List Char) : Prop := s.head? ≠ some '.'

/-- What has no point in it goes on without one after its digits. -/
theorem noPoint_takeDigits {cs : List Char} (others : '.' ∉ cs) (digit : NoDigit tail)
    (point : NoPoint tail) : NoPoint (takeDigits (cs ++ tail)).2 := by
  induction cs with
  | nil =>
      have read : takeDigits ([] ++ tail) = ([], tail) := takeDigits_append nofun digit
      rw [read]
      exact point
  | cons c rest ih =>
      rw [List.mem_cons, not_or] at others
      rw [List.cons_append, takeDigits]
      split
      · exact ih others.2
      · intro begins
        exact others.1 (Option.some.inj begins).symm

/-- A byte is read from all the digits that stand there. -/
theorem byte?_rest (read : byte? s = some (n, rest)) : rest = (takeDigits s).2 := by
  unfold byte? at read
  split at read
  · cases read
  · cases read
  · next taken =>
      dsimp only at read
      split at read
      · cases read
        rw [taken]
      · cases read

theorem mark?_eq_none (point : NoPoint s) : mark? '.' s = none := by
  cases s with
  | nil => rfl
  | cons c rest => exact if_neg fun same => point (congrArg some same)

/-- Without a point after its digits, no text spells four bytes. -/
theorem fourBytes?_eq_none (point : NoPoint (takeDigits s).2) : fourBytes? s = none := by
  unfold fourBytes?
  cases read : byte? s with
  | none => rfl
  | some found =>
      obtain ⟨n, rest⟩ := found
      rw [← byte?_rest read] at point
      simp only [Option.bind_eq_bind, Option.bind_some, mark?_eq_none point, Option.bind_none]

/-! ## Groups -/

theorem hexDigit?_lt {digit : Char} (read : hexDigit? digit = some n) : n < 16 := by
  unfold hexDigit? at read
  split at read
  · next range =>
      have last : digit.toNat ≤ '9'.toNat := range.2
      change digit.toNat ≤ 57 at last
      cases read
      change digit.toNat - 48 < 16
      omega
  · split at read
    · next range =>
        have last : digit.toNat ≤ 'f'.toNat := range.2
        change digit.toNat ≤ 102 at last
        cases read
        change digit.toNat - 97 + 10 < 16
        omega
    · split at read
      · next range =>
          have last : digit.toNat ≤ 'F'.toNat := range.2
          change digit.toNat ≤ 70 at last
          cases read
          change digit.toNat - 65 + 10 < 16
          omega
      · cases read

/-- The values of hexadecimal digits. -/
def hexValues (cs : List Char) : List Nat := cs.map fun c => (hexDigit? c).getD 0

/-- The number that hexadecimal digits spell. -/
def hexNumber (cs : List Char) : Nat := (hexValues cs).foldl (fun n d => n * 16 + d) 0

/-- Whether a text is that of a group: one to four hexadecimal digits, of either case. -/
structure GroupText (cs : List Char) : Prop where
  digits : ∀ c ∈ cs, (hexDigit? c).isSome = true
  nonempty : cs ≠ []
  short : cs.length ≤ 4

/-- A group has sixteen bits. -/
theorem GroupText.hexNumber_lt (one : GroupText cs) : hexNumber cs < 65536 := by
  have small : ∀ d ∈ hexValues cs, d < 16 := by
    intro d among
    obtain ⟨c, member, rfl⟩ := List.mem_map.mp among
    obtain ⟨value, known⟩ := Option.isSome_iff_exists.mp (one.digits c member)
    rw [known]
    exact hexDigit?_lt known
  have length : (hexValues cs).length = cs.length := List.length_map _
  calc
    hexNumber cs < (0 + 1) * 16 ^ (hexValues cs).length := foldl_digits_lt small 0
    _ ≤ (0 + 1) * 16 ^ 4 := by
      rw [length]
      exact Nat.mul_le_mul_left _ (Nat.pow_le_pow_right (by decide) one.short)

/-- What is read as hexadecimal digits stood at the front of the text. -/
theorem takeHexDigits_spec (read : takeHexDigits s = (values, rest)) :
    ∃ cs, (∀ c ∈ cs, (hexDigit? c).isSome = true) ∧ s = cs ++ rest ∧ values = hexValues cs := by
  induction s generalizing values with
  | nil =>
      cases read
      exact ⟨[], nofun, rfl, rfl⟩
  | cons c after ih =>
      rw [takeHexDigits] at read
      cases digit : hexDigit? c with
      | none =>
          rw [digit] at read
          cases read
          exact ⟨[], nofun, rfl, rfl⟩
      | some value =>
          cases more : takeHexDigits after with
          | mk found left =>
              rw [digit, more] at read
              obtain ⟨rfl, rfl⟩ := Prod.mk.inj read
              obtain ⟨cs, digits, rfl, rfl⟩ := ih more
              refine ⟨c :: cs, List.forall_mem_cons.mpr ⟨by rw [digit]; rfl, digits⟩, rfl, ?_⟩
              rw [hexValues, hexValues, List.map_cons, digit]
              rfl

/-- Whether a text does not begin with a hexadecimal digit. -/
def NoHexDigit (s : List Char) : Prop := ∀ c ∈ s.head?, hexDigit? c = none

/-- The reader takes the digits and stops where they end. -/
theorem takeHexDigits_append {cs : List Char} (digits : ∀ c ∈ cs, (hexDigit? c).isSome = true)
    (stops : NoHexDigit tail) : takeHexDigits (cs ++ tail) = (hexValues cs, tail) := by
  induction cs with
  | nil =>
      cases tail with
      | nil => rfl
      | cons c rest =>
          rw [List.nil_append, takeHexDigits, stops c rfl]
          rfl
  | cons c rest ih =>
      obtain ⟨digit, others⟩ := List.forall_mem_cons.mp digits
      obtain ⟨value, known⟩ := Option.isSome_iff_exists.mp digit
      rw [List.cons_append, takeHexDigits, known, ih others, hexValues, hexValues, List.map_cons,
        known]
      rfl

/-- What is read as a group is spelled by one to four hexadecimal digits. -/
theorem group?_spec (read : group? s = some (n, rest)) :
    ∃ cs, GroupText cs ∧ n = hexNumber cs ∧ s = cs ++ rest := by
  unfold group? at read
  split at read
  · cases read
  · next digits _ some_ taken =>
      split at read
      · next short =>
          cases read
          obtain ⟨cs, isDigit, rfl, rfl⟩ := takeHexDigits_spec taken
          refine ⟨cs, ⟨isDigit, fun none => some_ (by rw [none]; rfl), ?_⟩, rfl, rfl⟩
          rw [hexValues, List.length_map] at short
          exact short
      · cases read

/-- A group is read where its digits end. -/
theorem group?_append (one : GroupText cs) (stops : NoHexDigit tail) :
    group? (cs ++ tail) = some (hexNumber cs, tail) := by
  unfold group?
  rw [takeHexDigits_append one.digits stops]
  split
  · next empty =>
      exact absurd (List.map_eq_nil_iff.mp (Prod.mk.inj empty).1) one.nonempty
  · next digits rest _ same =>
      cases same
      refine if_pos ?_
      rw [hexValues, List.length_map]
      exact one.short

/-! ## What stands around groups -/

/-- Whether only a colon may follow. -/
def Colon (s : List Char) : Prop := ∀ c ∈ s.head?, c = ':'

theorem Colon.nil : Colon [] := nofun

theorem Colon.cons (rest : List Char) : Colon (':' :: rest) := by
  intro c begins
  cases begins
  rfl

theorem Colon.noHexDigit (colon : Colon tail) : NoHexDigit tail := by
  intro c begins
  rw [colon c begins]
  decide

theorem Colon.noDigit (colon : Colon tail) : NoDigit tail := by
  intro c begins
  rw [colon c begins]
  decide

theorem Colon.noPoint (colon : Colon tail) : NoPoint tail := by
  intro begins
  have same := colon '.' begins
  exact absurd same (by decide)

/-- What may stand after groups: nothing, or a double colon. -/
def EndsGroups (s : List Char) : Prop := s = [] ∨ ∃ rest, s = ':' :: ':' :: rest

/-- Where the groups end, the text ends or a colon stands. -/
theorem EndsGroups.colon (ends : EndsGroups tail) : Colon tail := by
  rcases ends with rfl | ⟨rest, rfl⟩
  · exact .nil
  · exact .cons _

/-- No group is read where groups end. -/
theorem readGroups_ends (ends : EndsGroups tail) (room : Nat) (first : Bool) :
    readGroups room first tail = ⟨[], false, tail⟩ := by
  cases room with
  | zero => rfl
  | succ room =>
      rcases ends with rfl | ⟨rest, rfl⟩ <;> cases first <;> cases room <;> rfl

/-- No more groups are read than there is room for. -/
theorem length_readGroups_le (room : Nat) (first : Bool) (s : List Char) :
    (readGroups room first s).groups.length ≤ room := by
  fun_induction readGroups room first s with
  | case1 | case2 | case4 => exact Nat.zero_le _
  | case3 first s room inner marked a b c d rest read =>
      split at read
      · cases read
      · change 2 ≤ room + 1
        omega
  | case5 first s room inner marked noBytes g rest read more ih => exact Nat.succ_le_succ ih

/-- The mark that stands before a group. -/
def lead (first : Bool) : List Char := if first then [] else [':']

/-- Each group but the first one is read after a colon. -/
theorem lead_spec {inner : List Char}
    (marked : (if first then some s else mark? ':' s) = some inner) : s = lead first ++ inner := by
  cases first with
  | true => exact Option.some.inj marked
  | false => exact mark?_spec marked

theorem lead_marked (first : Bool) (s : List Char) :
    (if first then some (lead first ++ s) else mark? ':' (lead first ++ s)) = some s := by
  cases first <;> rfl

theorem point_notMem_group (one : GroupText cs) : '.' ∉ cs := by
  intro among
  have digit := one.digits '.' among
  cases digit

/-- A group is not the beginning of four bytes. -/
theorem fourBytes?_group (one : GroupText cs) (colon : Colon tail) :
    fourBytes? (cs ++ tail) = none :=
  fourBytes?_eq_none (noPoint_takeDigits (point_notMem_group one) colon.noDigit colon.noPoint)

/-- One group is read, and then what follows it. -/
theorem readGroups_group (one : GroupText cs) (colon : Colon tail) (room : Nat) (first : Bool) :
    readGroups (room + 1) first (lead first ++ (cs ++ tail)) =
      ⟨hexNumber cs :: (readGroups room false tail).groups,
        (readGroups room false tail).endsInBytes, (readGroups room false tail).rest⟩ := by
  rw [readGroups, lead_marked]
  simp only [fourBytes?_group one colon, ite_self, group?_append one colon.noHexDigit]

end Address

end AlertRelay
