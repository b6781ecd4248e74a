/-!
# UTF-8

Bytes as text and text as bytes, over lists of bytes.
-/
namespace ScriptPress.Text

def utf8 (s : String) : List UInt8 := s.toUTF8.data.toList

def ofUtf8? (bytes : List UInt8) : Option String := String.fromUTF8? ⟨bytes.toArray⟩

theorem ofUtf8?_utf8 (s : String) : ofUtf8? (utf8 s) = some s := by
  unfold ofUtf8? utf8 String.fromUTF8?
  have h : (ByteArray.mk s.toUTF8.data.toList.toArray) = s.toByteArray := by
    simp [String.toUTF8]
  rw [h, dif_pos s.isValidUTF8]
  rfl

end ScriptPress.Text
