/-! # Text as bytes

Every text has bytes, and bytes that are no text in UTF-8 have none: `ofUtf8?_eq_some_iff`.
-/

namespace DriverMonitor.Text

/-- The text that bytes hold in UTF-8. -/
def ofUtf8? (bytes : List UInt8) : Option String := String.fromUTF8? ⟨bytes.toArray⟩

/-- The bytes of a text in UTF-8. -/
def utf8 (text : String) : List UInt8 := text.toUTF8.toList

private theorem toList_loop_eq (b : ByteArray) (i : Nat) (done : List UInt8) :
    ByteArray.toList.loop b i done = done.reverse ++ b.data.toList.drop i := by
  fun_induction ByteArray.toList.loop b i done with
  | case1 i done inside ih =>
    have here : b.data.toList.drop i = b.get! i :: b.data.toList.drop (i + 1) := by
      rw [List.drop_eq_getElem_cons (by simpa using inside)]
      congr 1
      exact (getElem!_pos b.data i inside).symm
    rw [ih, List.reverse_cons, List.append_assoc, here]
    rfl
  | case2 i done outside =>
    rw [List.drop_of_length_le (by simpa using outside), List.append_nil]

theorem utf8_eq_data (text : String) : utf8 text = text.toByteArray.data.toList :=
  toList_loop_eq text.toByteArray 0 []

/-- The bytes of a text are those of its characters. -/
theorem utf8_eq_flatMap (text : String) : utf8 text = text.toList.flatMap String.utf8EncodeChar := by
  rw [utf8_eq_data, ← String.utf8Encode_toList, List.utf8Encode, List.data_toByteArray]

theorem utf8_append (front back : String) : utf8 (front ++ back) = utf8 front ++ utf8 back := by
  simp only [utf8_eq_flatMap, String.toList_append, List.flatMap_append]

theorem utf8_toByteArray (text : String) : (⟨(utf8 text).toArray⟩ : ByteArray) = text.toByteArray := by
  rw [utf8_eq_data]

/-- Only the bytes of a text are read as that text. -/
theorem ofUtf8?_eq_some_iff {bytes : List UInt8} {text : String} :
    ofUtf8? bytes = some text ↔ bytes = utf8 text := by
  constructor
  · intro read
    obtain ⟨valid, same⟩ := Option.dite_none_right_eq_some.mp read
    cases same
    rw [utf8_eq_data]
    rfl
  · rintro rfl
    rw [ofUtf8?, utf8_toByteArray]
    exact dif_pos text.isValidUTF8

end DriverMonitor.Text
