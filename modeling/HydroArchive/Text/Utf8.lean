/-!
# Texts as bytes

Cursors are base-64 over bytes, so every text has to be written as bytes and read back.  The
encoding is UTF-8; a list of bytes that is not the encoding of a text is refused.
-/

namespace HydroArchive.Text

def bytes (s : String) : List UInt8 := s.toByteArray.data.toList

def ofBytes? (bs : List UInt8) : Option String := String.fromUTF8? ⟨bs.toArray⟩

@[simp] theorem ofBytes?_bytes (s : String) : ofBytes? (bytes s) = some s := by
  simp [ofBytes?, bytes, String.fromUTF8?, s.isValidUTF8, String.fromUTF8]

end HydroArchive.Text
