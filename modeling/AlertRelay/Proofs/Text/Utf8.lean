import AlertRelay.Text.Utf8

/-!
# Texts and their bytes

A text is known from its bytes (`utf8_inj`), so a key that spells an identifier spells no other, and
it is read back from them (`ofUtf8?_utf8`).
-/

namespace AlertRelay

/-- The bytes that are listed are those that were read and those from the index on. -/
private theorem toList_loop (bytes : ByteArray) (index : Nat) (read : List UInt8) :
    ByteArray.toList.loop bytes index read = read.reverse ++ bytes.data.toList.drop index := by
  fun_induction ByteArray.toList.loop bytes index read with
  | case1 index read inside ih =>
      have inside' : index < bytes.data.toList.length := by simpa using inside
      have byte : bytes.get! index = bytes.data.toList[index] := by
        simp [ByteArray.get!, inside]
      rw [ih, List.drop_eq_getElem_cons inside', byte, List.reverse_cons, List.append_assoc,
        List.singleton_append]
  | case2 index read outside =>
      rw [List.drop_eq_nil_of_le (by simpa using Nat.le_of_not_lt outside), List.append_nil]

private theorem toList_eq (bytes : ByteArray) : bytes.toList = bytes.data.toList := by
  unfold ByteArray.toList
  rw [toList_loop, List.reverse_nil, List.nil_append, List.drop_zero]

/-- Texts with the same bytes are the same. -/
theorem utf8_inj {a b : String} : utf8 a = utf8 b ↔ a = b := by
  constructor
  · intro same
    unfold utf8 at same
    rw [toList_eq, toList_eq] at same
    exact String.toByteArray_inj.mp (ByteArray.ext (Array.toList_inj.mp same))
  · rintro rfl
    rfl

/-- A text is read back from its bytes. -/
theorem ofUtf8?_utf8 (s : String) : ofUtf8? (utf8 s) = some s := by
  have bytes : ByteArray.mk (utf8 s).toArray = s.toByteArray := by
    unfold utf8
    rw [toList_eq]
    exact ByteArray.ext (Array.toArray_toList ..)
  unfold ofUtf8?
  rw [bytes]
  exact dif_pos s.isValidUTF8

end AlertRelay
