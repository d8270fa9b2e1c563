import AlertRelay.Proofs.Net.Spelling

/-!
# Addresses are read back

A valid address is read from its text as it was (`Address.parse?_render`), since its text spells it
(`Address.spells_chars`): four bytes, groups, groups around a double colon in place of their longest
run of zeros, or an address of version 4 in its last two groups.
-/

namespace AlertRelay

namespace Address

variable {n a b c d : Nat} {groups : List Nat}

/-! ## Groups -/

/-- A hexadecimal digit is read as its value. -/
theorem hexDigit?_digitChar (small : n < 16) : hexDigit? (Nat.digitChar n) = some n := by
  have all : ∀ n : Fin 16, hexDigit? (Nat.digitChar n) = some n.val := by decide
  exact all ⟨n, small⟩

theorem isSome_hexDigit?_toDigits (n : Nat) :
    ∀ c ∈ Nat.toDigits 16 n, (hexDigit? c).isSome = true := by
  induction n using Nat.strongRecOn with
  | ind n ih =>
      by_cases small : n < 16
      · rw [Nat.toDigits_of_lt_base small]
        simp only [List.mem_singleton, forall_eq, hexDigit?_digitChar small, Option.isSome_some]
      · rw [Nat.toDigits_of_base_le (by decide) (Nat.le_of_not_lt small)]
        simp only [List.mem_append, List.mem_singleton]
        rintro c (among | rfl)
        · exact ih (n / 16) (by omega) c among
        · rw [hexDigit?_digitChar (Nat.mod_lt n (by decide))]
          rfl

/-- The hexadecimal digits of a number spell it. -/
theorem hexNumber_toDigits (n : Nat) : hexNumber (Nat.toDigits 16 n) = n := by
  induction n using Nat.strongRecOn with
  | ind n ih =>
      by_cases small : n < 16
      · rw [Nat.toDigits_of_lt_base small]
        simp only [hexNumber, hexValues, List.map_cons, List.map_nil, hexDigit?_digitChar small,
          Option.getD_some, List.foldl_cons, List.foldl_nil]
        omega
      · have tenth := ih (n / 16) (by omega)
        rw [Nat.toDigits_of_base_le (by decide) (Nat.le_of_not_lt small), hexNumber, hexValues,
          List.map_append, List.foldl_append, ← hexValues, ← hexNumber, tenth]
        simp only [List.map_cons, List.map_nil, hexDigit?_digitChar (Nat.mod_lt n (by decide)),
          Option.getD_some, List.foldl_cons, List.foldl_nil]
        omega

/-- The hexadecimal digits of sixteen bits spell a group. -/
theorem groupText_toDigits (small : n < 65536) : GroupText (Nat.toDigits 16 n) where
  digits := isSome_hexDigit?_toDigits n
  nonempty := Nat.toDigits_ne_nil
  short := (Nat.length_toDigits_le_iff (by decide) (by decide)).mpr (by omega)

/-- The text of groups is that of groups with colons between them. -/
theorem joined_groupsText (some_ : groups ≠ []) (small : ∀ g ∈ groups, g < 65536) :
    Joined (groupsText groups) groups false := by
  induction groups with
  | nil => exact absurd rfl some_
  | cons g rest ih =>
      obtain ⟨head, others⟩ := List.forall_mem_cons.mp small
      cases rest with
      | nil =>
          have joined := Joined.group (groupText_toDigits head)
          rw [hexNumber_toDigits] at joined
          exact joined
      | cons h more =>
          have joined := Joined.cons (groupText_toDigits head) (ih nofun others)
          rw [hexNumber_toDigits] at joined
          exact joined

/-- Groups with colons between them are a side of an address. -/
theorem side_groupsText (small : ∀ g ∈ groups, g < 65536) :
    Side (groupsText groups) groups false := by
  by_cases none : groups = []
  · rw [none]
    exact .nothing
  · exact .joined (joined_groupsText none small)

/-! ## The longest run of zeros -/

/-- Whether a run of groups is a run of zeros. -/
def ZeroRun (groups : List Nat) (run : Nat × Nat) : Prop :=
  ∃ before after, groups = before ++ List.replicate run.2 0 ++ after ∧ before.length = run.1

/-- What is found as the longest run of zeros is a run of zeros. -/
theorem zeroRun_longestZeros {before : List Nat} {current best : Nat × Nat} {position : Nat}
    {all : List Nat} (cut : all = before ++ groups) (here : before.length = position)
    (running : current.2 = 0 ∨ ∃ start, before = start ++ List.replicate current.2 0 ∧
      start.length = current.1)
    (found : ZeroRun all best) : ZeroRun all (longestZeros position current best groups) := by
  induction groups generalizing before current best position with
  | nil => exact found
  | cons g rest ih =>
      rw [longestZeros]
      have next : all = before ++ [g] ++ rest := by rw [cut, List.append_assoc]; rfl
      have further : (before ++ [g]).length = position + 1 := by
        rw [List.length_append, here]
        rfl
      split
      · next zero =>
          subst zero
          generalize grown : (if current.2 = 0 then (position, 1)
            else (current.1, current.2 + 1)) = current'
          obtain ⟨start, run, begins⟩ : ∃ start,
              before ++ [0] = start ++ List.replicate current'.2 0 ∧ start.length = current'.1 := by
            rw [← grown]
            by_cases fresh : current.2 = 0
            · rw [if_pos fresh]
              exact ⟨before, rfl, here⟩
            · obtain ⟨start, run, begins⟩ := running.resolve_left fresh
              rw [if_neg fresh]
              refine ⟨start, ?_, begins⟩
              rw [run, List.append_assoc, ← List.replicate_succ']
          dsimp only
          refine ih next further (.inr ⟨start, run, begins⟩) ?_
          split
          · exact ⟨start, rest, by rw [← run, next], begins⟩
          · exact found
      · exact ih next further (.inl rfl) found

/-! ## Addresses -/

/-- Groups around a double colon spell themselves and the run of zeros that was left out. -/
theorem spells_compressed {before after : List Nat} {length : Nat} (zeros : 1 < length)
    (full : (before ++ List.replicate length 0 ++ after).length = 8)
    (small : ∀ g ∈ before ++ List.replicate length 0 ++ after, g < 65536) :
    Spells (groupsText before ++ ':' :: ':' :: groupsText after)
      (v6 (before ++ List.replicate length 0 ++ after)) := by
  simp only [List.length_append, List.length_replicate] at full
  have left := side_groupsText fun g among =>
    small g (List.mem_append_left _ (List.mem_append_left _ among))
  have right := side_groupsText fun g among => small g (List.mem_append_right _ among)
  have rest : 8 - before.length - after.length = length := by omega
  have spelled := Spells.around left right (by omega)
  rw [rest] at spelled
  exact spelled

/-- An address of version 4 stands for the last groups. -/
theorem spells_mapped (valid : (v4 a b c d).Valid) :
    Spells ("::ffff:".toList ++ bytesText a b c d)
      (v6 [0, 0, 0, 0, 0, 0xffff, a * 256 + b, c * 256 + d]) := by
  have last := Joined.cons (groupText_toDigits (n := 0xffff) (by decide)) (.bytes valid)
  rw [hexNumber_toDigits] at last
  exact .around .nothing (.joined last) (Nat.le_of_ble_eq_true rfl)

/-- The text of an address of eight groups spells it. -/
theorem spells_v6 (full : groups.length = 8) (small : ∀ g ∈ groups, g < 65536) :
    Spells (v6 groups).chars (v6 groups) := by
  unfold Address.chars
  split
  · next same => cases same
  · next _ same =>
      cases same
      split
      · next g h =>
          simp only [List.forall_mem_cons] at small
          obtain ⟨_, _, _, _, _, _, hg, hh, _⟩ := small
          have valid : (v4 (g / 256) (g % 256) (h / 256) (h % 256)).Valid :=
            ⟨Nat.div_lt_of_lt_mul hg, Nat.mod_lt g (by decide), Nat.div_lt_of_lt_mul hh,
              Nat.mod_lt h (by decide)⟩
          have spelled := spells_mapped valid
          rw [Nat.div_add_mod', Nat.div_add_mod'] at spelled
          exact spelled
      · obtain ⟨before, after, cut, start⟩ : ZeroRun groups (longestZeros 0 (0, 0) (0, 0) groups) :=
          zeroRun_longestZeros (List.nil_append groups).symm rfl (.inl rfl) ⟨[], groups, rfl, rfl⟩
        generalize longestZeros 0 (0, 0) (0, 0) groups = run at cut start
        obtain ⟨position, length⟩ := run
        dsimp only at cut start ⊢
        split
        · next zeros =>
            have left : groups.take position = before := by
              rw [cut, List.append_assoc, List.take_left' start]
            have right : groups.drop (position + length) = after := by
              rw [cut, List.drop_left']
              rw [List.length_append, List.length_replicate, start]
            rw [left, right]
            rw [cut] at full small ⊢
            exact spells_compressed zeros full small
        · have some_ : groups ≠ [] := by
            rintro rfl
            cases full
          exact .full (joined_groupsText some_ small) full

/-- The text of a valid address spells it. -/
theorem spells_chars {address : Address} (valid : address.Valid) :
    Spells address.chars address := by
  cases address with
  | v4 a b c d => exact .bytes valid
  | v6 groups => exact spells_v6 valid.1 valid.2

/-- A valid address is read from its text. -/
theorem parse?_render {address : Address} (valid : address.Valid) :
    parse? address.render = some address := by
  rw [parse?_eq_some_iff, Address.render, String.toList_ofList]
  exact spells_chars valid

end Address

end AlertRelay
