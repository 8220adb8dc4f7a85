/-!
# Bytes of a text

Texts are stored as UTF-8. `bytes` gives the bytes of a text, and `ofBytes?` reads bytes back and
refuses what is not UTF-8.

## Main definitions

* `ScriptHost.Text.bytes` — the UTF-8 bytes of a text.
* `ScriptHost.Text.ofBytes?` — the text with these bytes.

## Main results

* `ScriptHost.Text.ofBytes?_bytes` — a text is read back from its bytes.
* `ScriptHost.Text.bytes_of_ofBytes?` — a text is read from no other bytes than its own.
-/

namespace ScriptHost.Text

/-- The UTF-8 bytes of a text. -/
def bytes (text : String) : List UInt8 :=
  text.toByteArray.data.toList

/-- The text with these UTF-8 bytes; none when the bytes are not UTF-8. -/
def ofBytes? (bs : List UInt8) : Option String :=
  String.fromUTF8? ⟨bs.toArray⟩

/-- A text is read back from its bytes. -/
theorem ofBytes?_bytes (text : String) : ofBytes? (bytes text) = some text := by
  have h : (⟨(bytes text).toArray⟩ : ByteArray) = text.toByteArray := by
    simp [bytes]
  rw [ofBytes?, h, String.fromUTF8?, dif_pos text.isValidUTF8]
  rfl

/-- A text is read from no other bytes than its own. -/
theorem bytes_of_ofBytes? {bs : List UInt8} {text : String} (h : ofBytes? bs = some text) :
    bytes text = bs := by
  unfold ofBytes? String.fromUTF8? at h
  split at h
  · cases h
    simp [bytes, String.fromUTF8]
  · cases h

end ScriptHost.Text
