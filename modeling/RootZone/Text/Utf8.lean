/-!
# UTF-8

Texts and their bytes. Decoding takes a whole sequence of bytes or refuses it; encoding never
fails. The two fit together: `decodeUtf8?_encodeUtf8` and `encodeUtf8_of_decodeUtf8?` say that each
undoes the other.
-/

namespace RootZone.Text

def encodeUtf8 (text : List Char) : List UInt8 :=
  (String.ofList text).toUTF8.data.toList

def decodeUtf8? (bytes : List UInt8) : Option (List Char) :=
  (String.fromUTF8? ⟨bytes.toArray⟩).map String.toList

def byteLength (text : List Char) : Nat :=
  text.foldr (fun c n => c.utf8Size + n) 0

theorem fromUTF8?_toUTF8 (s : String) : String.fromUTF8? s.toUTF8 = some s := by
  have h : s.toUTF8.IsValidUTF8 := s.isValidUTF8
  rw [String.fromUTF8?, dif_pos h]
  rfl

/-- A text is read back from its bytes. -/
theorem decodeUtf8?_encodeUtf8 (text : List Char) :
    decodeUtf8? (encodeUtf8 text) = some text := by
  have h := fromUTF8?_toUTF8 (String.ofList text)
  unfold decodeUtf8? encodeUtf8
  rw [Array.toArray_toList, show ByteArray.mk (String.ofList text).toUTF8.data =
    (String.ofList text).toUTF8 from rfl, h, Option.map_some, String.toList_ofList]

/-- Bytes that are read as a text are those of the text. -/
theorem encodeUtf8_of_decodeUtf8? {bytes : List UInt8} {text : List Char}
    (h : decodeUtf8? bytes = some text) : encodeUtf8 text = bytes := by
  obtain ⟨s, hs, rfl⟩ := Option.map_eq_some_iff.1 h
  unfold String.fromUTF8? at hs
  split at hs
  · cases hs
    rw [encodeUtf8, String.ofList_toList]
    rfl
  · cases hs

end RootZone.Text
