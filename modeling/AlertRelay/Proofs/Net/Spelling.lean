import AlertRelay.Proofs.Net.Address

/-!
# What texts spell an address

The texts of addresses are given as a grammar (`Address.Spells`): four bytes in decimal, or eight
groups of up to four hexadecimal digits, of which four bytes may stand for the last two and a double
colon for some that are zero. The reader takes exactly these texts, each for the address that it
spells (`Address.parse?_eq_some_iff`), which has four bytes or eight groups (`valid_parse?`).
-/

namespace AlertRelay

namespace Address

/-- Texts of groups with colons between them, and whether they end in four bytes. -/
inductive Joined : List Char → List Nat → Bool → Prop
  | group {cs : List Char} (one : GroupText cs) : Joined cs [hexNumber cs] false
  | bytes {a b c d : Nat} (valid : (v4 a b c d).Valid) :
      Joined (bytesText a b c d) [a * 256 + b, c * 256 + d] true
  | cons {cs text : List Char} {groups : List Nat} {endsInBytes : Bool} (one : GroupText cs)
      (others : Joined text groups endsInBytes) :
      Joined (cs ++ ':' :: text) (hexNumber cs :: groups) endsInBytes

/-- What may stand on a side of a double colon. -/
inductive Side : List Char → List Nat → Bool → Prop
  | nothing : Side [] [] false
  | joined {text : List Char} {groups : List Nat} {endsInBytes : Bool}
      (joined : Joined text groups endsInBytes) : Side text groups endsInBytes

/-- The texts that spell an address. A double colon stands for one zero group at least, and only
what is after it may end in four bytes. -/
inductive Spells : List Char → Address → Prop
  | bytes {a b c d : Nat} (valid : (v4 a b c d).Valid) : Spells (bytesText a b c d) (v4 a b c d)
  | full {text : List Char} {groups : List Nat} {endsInBytes : Bool}
      (joined : Joined text groups endsInBytes) (eight : groups.length = 8) :
      Spells text (v6 groups)
  | around {before after : List Char} {first last : List Nat} {endsInBytes : Bool}
      (left : Side before first false) (right : Side after last endsInBytes)
      (fewer : first.length + last.length ≤ 7) :
      Spells (before ++ ':' :: ':' :: after)
        (v6 (first ++ List.replicate (8 - first.length - last.length) 0 ++ last))

variable {s rest cs text tail : List Char} {room : Nat} {groups : List Nat}
  {first endsInBytes : Bool} {address : Address}

/-! ## What is read was spelled -/

/-- Either no group is read, or groups that stood at the front of the text. -/
theorem readGroups_spec (room : Nat) (first : Bool) (s : List Char) :
    readGroups room first s = ⟨[], false, s⟩ ∨
      ∃ text, Joined text (readGroups room first s).groups (readGroups room first s).endsInBytes ∧
        s = lead first ++ (text ++ (readGroups room first s).rest) := by
  fun_induction readGroups room first s with
  | case1 | case2 | case4 => exact .inl rfl
  | case3 first s room inner marked a b c d rest read =>
      split at read
      · cases read
      · obtain ⟨valid, rfl⟩ := fourBytes?_spec read
        exact .inr ⟨bytesText a b c d, .bytes valid, lead_spec marked⟩
  | case5 first s room inner marked noBytes g rest read more ih =>
      obtain ⟨cs, one, rfl, rfl⟩ := group?_spec read
      right
      rcases ih with nothing | ⟨text, others, following⟩
      · have none : more = ⟨[], false, rest⟩ := nothing
        rw [none]
        exact ⟨cs, .group one, lead_spec marked⟩
      · refine ⟨cs ++ ':' :: text, .cons one others, ?_⟩
        calc
          s = lead first ++ (cs ++ rest) := lead_spec marked
          _ = lead first ++ (cs ++ ':' :: (text ++ more.rest)) :=
            congrArg (fun after => lead first ++ (cs ++ after)) following
          _ = lead first ++ (cs ++ ':' :: text ++ more.rest) := by
            rw [List.append_assoc cs, List.cons_append]

/-- What is read as groups is a side of an address, and the rest is what comes after it. -/
theorem readGroups_side (room : Nat) (s : List Char) :
    ∃ text, Side text (readGroups room true s).groups (readGroups room true s).endsInBytes ∧
      s = text ++ (readGroups room true s).rest := by
  rcases readGroups_spec room true s with nothing | ⟨text, joined, spelled⟩
  · rw [nothing]
    exact ⟨[], .nothing, rfl⟩
  · exact ⟨text, .joined joined, spelled⟩

/-- What is read as an address of version 6 up to the end of the text was spelled. -/
theorem spells_of_sixteenBytes? (read : sixteenBytes? s = some (groups, [])) :
    Spells s (v6 groups) := by
  have most := length_readGroups_le 8 true s
  obtain ⟨before, left, spelled⟩ := readGroups_side 8 s
  unfold sixteenBytes? at read
  dsimp only at read
  generalize readGroups 8 true s = head at most left spelled read
  obtain ⟨front, endsInBytes, rest⟩ := head
  dsimp only at most left spelled read
  split at read
  · next eight =>
      cases read
      rw [spelled, List.append_nil]
      cases left with
      | nothing => cases eight
      | joined joined => exact .full joined eight
  · next fewer =>
      split at read
      · cases read
      · next groupsOnly =>
          split at read
          · next after =>
              have room := length_readGroups_le (7 - front.length) true after
              obtain ⟨text, right, following⟩ := readGroups_side (7 - front.length) after
              generalize readGroups (7 - front.length) true after = tail
                at room right following read
              obtain ⟨last, bytesLast, rest⟩ := tail
              cases read
              dsimp only at room right following ⊢
              rw [List.append_nil] at following
              rw [Bool.eq_false_of_not_eq_true groupsOnly] at left
              rw [spelled, following]
              exact .around left right (by omega)
          · cases read

/-- What is read as an address was spelled. -/
theorem spells_of_parse? {text : String} (read : parse? text = some address) :
    Spells text.toList address := by
  unfold Address.parse? Address.scan? at read
  cases bytes : fourBytes? text.toList with
  | some found =>
      obtain ⟨⟨a, b, c, d⟩, rest⟩ := found
      obtain ⟨valid, spelled⟩ := fourBytes?_spec bytes
      simp only [bytes] at read
      split at read
      · next same =>
          cases same
          cases read
          rw [spelled, List.append_nil]
          exact .bytes valid
      · cases read
  | none =>
      cases known : sixteenBytes? text.toList with
      | none => simp only [bytes, known, Option.map_none, reduceCtorEq] at read
      | some found =>
          obtain ⟨groups, rest⟩ := found
          simp only [bytes, known, Option.map_some] at read
          split at read
          · next same =>
              cases same
              cases read
              exact spells_of_sixteenBytes? known
          · cases read

/-! ## What is spelled is valid -/

/-- Joined groups have sixteen bits each. -/
theorem Joined.small (joined : Joined text groups endsInBytes) : ∀ g ∈ groups, g < 65536 := by
  induction joined with
  | group one => exact List.forall_mem_singleton.mpr one.hexNumber_lt
  | bytes valid =>
      obtain ⟨_, _, _, _⟩ := valid
      exact List.forall_mem_cons.mpr ⟨by omega, List.forall_mem_singleton.mpr (by omega)⟩
  | cons one _ ih => exact List.forall_mem_cons.mpr ⟨one.hexNumber_lt, ih⟩

/-- The groups of a side have sixteen bits each. -/
theorem Side.small (side : Side text groups endsInBytes) : ∀ g ∈ groups, g < 65536 := by
  cases side with
  | nothing => exact nofun
  | joined joined => exact joined.small

/-- What a text spells is an address with parts in their ranges. -/
theorem Spells.valid (spelled : Spells text address) : address.Valid := by
  cases spelled with
  | bytes valid => exact valid
  | full joined eight => exact ⟨eight, joined.small⟩
  | around left right fewer =>
      refine ⟨?_, ?_⟩
      · simp only [List.length_append, List.length_replicate]
        omega
      · simp only [List.mem_append, List.mem_replicate]
        rintro g ((among | ⟨_, rfl⟩) | among)
        · exact left.small g among
        · decide
        · exact right.small g among

/-- An address that was read is valid. -/
theorem valid_parse? {text : String} (read : parse? text = some address) : address.Valid :=
  (spells_of_parse? read).valid

/-! ## What is spelled is read -/

/-- Groups that are joined are read up to what ends them. -/
theorem readGroups_joined (joined : Joined text groups endsInBytes) (fit : groups.length ≤ room)
    (ends : EndsGroups tail) (first : Bool) :
    readGroups room first (lead first ++ (text ++ tail)) = ⟨groups, endsInBytes, tail⟩ := by
  induction joined generalizing room first with
  | group one =>
      obtain ⟨room, rfl⟩ := Nat.exists_eq_add_of_le' fit
      rw [List.length_singleton, readGroups_group one ends.colon, readGroups_ends ends]
  | bytes valid =>
      obtain ⟨room, rfl⟩ := Nat.exists_eq_add_of_le' fit
      change readGroups (room + 1 + 1) _ _ = _
      rw [readGroups, lead_marked]
      simp only [Nat.add_eq_zero_iff, one_ne_zero, and_false, ↓reduceIte,
        fourBytes?_bytesText valid ends.colon.noDigit]
  | @cons cs text groups endsInBytes one others ih =>
      obtain ⟨spare, rfl⟩ := Nat.exists_eq_add_of_le' fit
      have read : readGroups (spare + groups.length) false (':' :: (text ++ tail)) =
          ⟨groups, endsInBytes, tail⟩ := ih (Nat.le_add_left _ _) false
      change readGroups (spare + groups.length + 1) _ _ = _
      rw [List.append_assoc, List.cons_append, readGroups_group one (.cons _), read]

/-- A side of an address is read as its groups if there is room for them. -/
theorem readGroups_of_side (side : Side text groups endsInBytes) (fit : groups.length ≤ room)
    (ends : EndsGroups tail) :
    readGroups room true (text ++ tail) = ⟨groups, endsInBytes, tail⟩ := by
  cases side with
  | nothing => exact readGroups_ends ends room true
  | joined joined => exact readGroups_joined joined fit ends true

/-- Only four bytes of their own are read as four bytes. -/
theorem fourBytes?_joined (joined : Joined text groups endsInBytes)
    (others : endsInBytes = false ∨ groups.length ≠ 2) (colon : Colon tail) :
    fourBytes? (text ++ tail) = none := by
  cases joined with
  | group one => exact fourBytes?_group one colon
  | bytes valid => simp only [Bool.true_eq_false, List.length_cons, List.length_nil, ne_eq,
      not_true_eq_false, or_self] at others
  | cons one others =>
      rw [List.append_assoc]
      exact fourBytes?_group one (.cons _)

/-- Groups around a double colon are read with zeros between them. -/
theorem scan?_around {before after : List Nat} {endsInBytes : Bool}
    (noBytes : fourBytes? s = none)
    (head : readGroups 8 true s = ⟨before, false, ':' :: ':' :: rest⟩) (fewer : before.length ≠ 8)
    (tail : readGroups (7 - before.length) true rest = ⟨after, endsInBytes, []⟩) :
    scan? s = some (v6 (before ++ List.replicate (8 - before.length - after.length) 0 ++ after),
      []) := by
  unfold Address.scan? Address.sixteenBytes?
  simp only [noBytes, head, if_neg fewer, Bool.false_eq_true, ↓reduceIte, tail, Option.map_some]

/-- The reader takes what spells an address. -/
theorem scan?_of_spells (spelled : Spells text address) : scan? text = some (address, []) := by
  cases spelled with
  | bytes valid =>
      have read := fourBytes?_bytesText valid NoDigit.nil
      rw [List.append_nil] at read
      unfold Address.scan?
      rw [read]
  | full joined eight =>
      -- Eight groups are more than four bytes stand for, so the text begins with one of them.
      have noBytes := fourBytes?_joined joined (.inr (by omega)) .nil
      have read := readGroups_joined joined (Nat.le_of_eq eight) (.inl rfl) true
      rw [List.append_nil] at noBytes read
      unfold Address.scan? Address.sixteenBytes?
      change readGroups 8 true text = _ at read
      rw [noBytes, read]
      dsimp only
      rw [if_pos eight]
      rfl
  | @around before after first last endsInBytes left right fewer =>
      have noBytes : fourBytes? (before ++ ':' :: ':' :: after) = none := by
        cases left with
        | nothing => exact fourBytes?_eq_none (Colon.cons _).noPoint
        | joined joined => exact fourBytes?_joined joined (.inl rfl) (.cons _)
      have head : readGroups 8 true (before ++ ':' :: ':' :: after) =
          ⟨first, false, ':' :: ':' :: after⟩ :=
        readGroups_of_side left (by omega) (.inr ⟨after, rfl⟩)
      have tail : readGroups (7 - first.length) true (after ++ []) = ⟨last, endsInBytes, []⟩ :=
        readGroups_of_side right (by omega) (.inl rfl)
      rw [List.append_nil] at tail
      exact scan?_around noBytes head (by omega) tail

/-- A text is read as the address that it spells, and as no address if it spells none. -/
theorem parse?_eq_some_iff {text : String} :
    parse? text = some address ↔ Spells text.toList address := by
  refine ⟨spells_of_parse?, fun spelled => ?_⟩
  unfold Address.parse?
  rw [scan?_of_spells spelled]

end Address

end AlertRelay
