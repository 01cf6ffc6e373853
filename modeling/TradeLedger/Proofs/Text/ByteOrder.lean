import Mathlib.Data.Char
import Mathlib.Data.String.Basic
import TradeLedger.Text.Utf8

/-! The order of texts is that of their bytes. In UTF-8 a character of a higher number has more bytes, or as many of
which the first different one is higher. -/
namespace TradeLedger.Text

variable {c d : Char} {xs ys : List Char}

private theorem toList_loop (bytes : ByteArray) (i : ℕ) (read : List UInt8) :
    ByteArray.toList.loop bytes i read = read.reverse ++ bytes.data.toList.drop i := by
  fun_induction ByteArray.toList.loop bytes i read with
  | case1 i read more ih =>
    have inside : i < bytes.data.toList.length := by simpa using more
    rw [ih, List.drop_eq_getElem_cons inside]
    simp [ByteArray.get!, more]
  | case2 i read done =>
    rw [List.drop_eq_nil_of_le (by simpa using Nat.le_of_not_lt done), List.append_nil]

/-- The bytes of a text are those of its characters. -/
theorem bytesOf_eq (text : String) : bytesOf text = text.toList.flatMap String.utf8EncodeChar := by
  have read : bytesOf text = text.toByteArray.data.toList := by
    rw [bytesOf, ByteArray.toList, toList_loop]
    rfl
  have encoded : text.toByteArray = text.toList.utf8Encode := by
    rw [← String.toByteArray_ofList, String.ofList_toList]
  rw [read, encoded, List.utf8Encode, List.toList_data_toByteArray]

/-- The bytes of the lower character precede, whatever follows. -/
theorem encode_lt (less : c < d) (rest rest' : List UInt8) :
    String.utf8EncodeChar c ++ rest < String.utf8EncodeChar d ++ rest' := by
  have number : c.val.toNat < d.val.toNat := less
  have last : d.val.toNat < 0x110000 := by
    have := d.valid
    unfold UInt32.isValidChar Nat.isValidChar at this
    omega
  unfold String.utf8EncodeChar
  dsimp only
  split_ifs <;> simp only [List.cons_append, List.nil_append, List.cons_lt_cons_iff, UInt8.lt_iff_toNat_lt,
    ← UInt8.toNat_inj, UInt8.toNat_ofNat'] <;> simp (disch := omega) only [Nat.mod_eq_of_lt] <;> omega

theorem append_lt_append_iff (shared : List UInt8) {rest rest' : List UInt8} :
    shared ++ rest < shared ++ rest' ↔ rest < rest' := by
  induction shared with
  | nil => rfl
  | cons byte shared ih => simp [ih]

theorem encode_ne_nil (c : Char) : String.utf8EncodeChar c ≠ [] := by
  unfold String.utf8EncodeChar
  dsimp only
  split_ifs <;> simp

theorem chars_lt_iff : xs < ys ↔ xs.flatMap String.utf8EncodeChar < ys.flatMap String.utf8EncodeChar := by
  induction xs generalizing ys with
  | nil =>
    cases ys with
    | nil => simp
    | cons d ys =>
      obtain ⟨byte, bytes, encoded⟩ := List.exists_cons_of_ne_nil (encode_ne_nil d)
      simp [encoded]
  | cons c xs ih =>
    cases ys with
    | nil => simp
    | cons d ys =>
      rw [List.flatMap_cons, List.flatMap_cons, List.cons_lt_cons_iff]
      rcases lt_trichotomy c d with less | rfl | greater
      · exact iff_of_true (.inl less) (encode_lt less _ _)
      · rw [append_lt_append_iff, ← ih]
        simp
      · refine iff_of_false ?_ (List.lt_asymm (encode_lt greater _ _))
        rintro (less | ⟨rfl, _⟩)
        · exact lt_asymm less greater
        · exact lt_irrefl _ greater

/-- One text precedes another if and only if its bytes do. -/
theorem compare_eq_lt_iff (a b : String) : compare a b = .lt ↔ bytesOf a < bytesOf b := by
  have smaller : compare a b = .lt ↔ a < b := by
    change compareOfLessAndEq a b = .lt ↔ _
    unfold compareOfLessAndEq
    split_ifs <;> simp_all
  rw [smaller, String.lt_iff_toList_lt, bytesOf_eq, bytesOf_eq, chars_lt_iff]

end TradeLedger.Text
