import ScriptPress.Text.Utf8

/-!
# The octets of a text

The UTF-8 form of a text, character by character. Main statements: a character of ASCII is the one
octet of its number, and no other character has an octet in the range of ASCII, so signs of ASCII
can be looked for in the octets.
-/
namespace ScriptPress.Text

def octets (s : List Char) : List UInt8 := s.flatMap String.utf8EncodeChar

theorem utf8_ofList (s : List Char) : utf8 (String.ofList s) = octets s := by
  have h : (String.ofList s).toUTF8 = (octets s).toByteArray := String.toByteArray_ofList
  rw [utf8, h, List.toList_data_toByteArray]

theorem ofUtf8?_octets (s : List Char) : ofUtf8? (octets s) = some (String.ofList s) := by
  rw [← utf8_ofList, ofUtf8?_utf8]

theorem octets_cons (c : Char) (s : List Char) :
    octets (c :: s) = String.utf8EncodeChar c ++ octets s := List.flatMap_cons

theorem octets_append (s t : List Char) : octets (s ++ t) = octets s ++ octets t :=
  List.flatMap_append

/-! ### ASCII -/

theorem utf8EncodeChar_of_ascii {c : Char} (h : c.toNat ≤ 0x7F) :
    String.utf8EncodeChar c = [UInt8.ofNat c.toNat] := by
  rw [String.utf8EncodeChar]
  exact if_pos h

theorem octets_cons_of_ascii {c : Char} (s : List Char) (h : c.toNat ≤ 0x7F) :
    octets (c :: s) = UInt8.ofNat c.toNat :: octets s := by
  rw [octets_cons, utf8EncodeChar_of_ascii h]
  rfl

theorem le_of_mem_utf8EncodeChar {c : Char} (h : 0x7F < c.toNat) {b : UInt8}
    (hb : b ∈ String.utf8EncodeChar c) : 0x80 ≤ b := by
  rw [UInt8.le_iff_toNat_le]
  have hc : ¬c.val.toNat ≤ 127 := by
    simpa using h
  rw [String.utf8EncodeChar] at hb
  simp only [if_neg hc] at hb
  split at hb
  · simp only [List.mem_cons, List.not_mem_nil, or_false] at hb
    rcases hb with rfl | rfl <;> simp <;> omega
  · split at hb
    · simp only [List.mem_cons, List.not_mem_nil, or_false] at hb
      rcases hb with rfl | rfl | rfl <;> simp <;> omega
    · simp only [List.mem_cons, List.not_mem_nil, or_false] at hb
      rcases hb with rfl | rfl | rfl | rfl <;> simp <;> omega

end ScriptPress.Text
