import SettingsCheck.Text.Blank

namespace SettingsCheck.Text

variable {s t : String} {bytes : List UInt8}

theorem toList_loop (b : ByteArray) (i : Nat) (before : List UInt8) :
    ByteArray.toList.loop b i before = before.reverse ++ b.data.toList.drop i := by
  fun_induction ByteArray.toList.loop b i before with
  | case1 i before hi ih =>
    have hlt : i < b.data.size := hi
    have hbyte : b.get! i = b.data[i] := getElem!_pos b.data i hlt
    have hrest : b.data.toList.drop i = b.data[i] :: b.data.toList.drop (i + 1) := by
      rw [List.drop_eq_getElem_cons (by simpa using hlt), Array.getElem_toList]
    rw [ih, hrest, hbyte, List.reverse_cons, List.append_assoc, List.singleton_append]
  | case2 i before hi =>
    have hend : b.data.toList.length ≤ i := Nat.le_of_not_lt hi
    rw [List.drop_eq_nil_of_le hend, List.append_nil]

theorem toList_eq (b : ByteArray) : b.toList = b.data.toList := by
  rw [ByteArray.toList, toList_loop, List.reverse_nil, List.nil_append, List.drop_zero]

theorem toUTF8_toList_inj : s.toUTF8.toList = t.toUTF8.toList ↔ s = t := by
  rw [toList_eq, toList_eq, Array.toList_inj, ← ByteArray.ext_iff]
  exact String.toByteArray_inj

theorem length_toUTF8_toList (s : String) : s.toUTF8.toList.length = s.utf8ByteSize := by
  rw [toList_eq, Array.length_toList, ← String.size_toByteArray]
  rfl

/-- Bytes are read as the text that they are the form of. -/
theorem fromUTF8?_eq_some_iff :
    String.fromUTF8? ⟨bytes.toArray⟩ = some s ↔ s.toUTF8.toList = bytes := by
  rw [toList_eq]
  constructor
  · intro h
    unfold String.fromUTF8? at h
    split at h
    · cases h
      rfl
    · cases h
  · rintro rfl
    rw [Array.toArray_toList]
    exact dif_pos s.isValidUTF8

/-- Bytes below 128 are the form of the characters with these numbers. -/
theorem toUTF8_toList_of_ascii (h : ∀ b ∈ bytes, b.toNat < 128) :
    (String.ofList (bytes.map fun b => Char.ofNat b.toNat)).toUTF8.toList = bytes := by
  have hascii : ∀ n : Fin 128, String.utf8EncodeChar (Char.ofNat n) = [UInt8.ofNat n] := by
    decide
  rw [toList_eq, String.toUTF8_eq_toByteArray, String.toByteArray_ofList]
  induction bytes with
  | nil => rfl
  | cons b bytes ih =>
    obtain ⟨hb, hbytes⟩ := List.forall_mem_cons.mp h
    have hfirst := hascii ⟨b.toNat, hb⟩
    rw [UInt8.ofNat_toNat] at hfirst
    rw [List.map_cons, List.utf8Encode_cons, List.utf8Encode_singleton, hfirst,
      ByteArray.toList_data_append, ih hbytes]
    rfl

end SettingsCheck.Text
