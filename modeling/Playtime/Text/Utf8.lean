namespace Playtime.Text

def toUtf8 (text : String) : List UInt8 := text.toUTF8.data.toList

def ofUtf8? (bytes : List UInt8) : Option String := String.fromUTF8? ⟨bytes.toArray⟩

theorem ofUtf8?_toUtf8 (text : String) : ofUtf8? (toUtf8 text) = some text := by
  have valid : ByteArray.IsValidUTF8 text.toUTF8 := text.isValidUTF8
  simp only [ofUtf8?, toUtf8, Array.toArray_toList]
  exact dif_pos valid

theorem toUtf8_of_ofUtf8? {bytes : List UInt8} {text : String} (read : ofUtf8? bytes = some text) :
    toUtf8 text = bytes := by
  unfold ofUtf8? String.fromUTF8? at read
  split at read
  · cases read
    rfl
  · cases read

end Playtime.Text
