/-! # Texts as bytes

A text's UTF-8 form, and the text that a byte sequence is the form of. Only the one form that
writing gives is read: overlong sequences, surrogates and values above U+10FFFF are refused.
-/

namespace FleetWatch

/-- A sequence of bytes, as it is sent, received or kept in a file. -/
abbrev Bytes := List UInt8

namespace Utf8

def bytes (s : String) : Bytes := s.toByteArray.data.toList

/-- The text that has this UTF-8 form, if there is one. -/
def text? (b : Bytes) : Option String := String.fromUTF8? ⟨b.toArray⟩

def ofChars (cs : List Char) : Bytes := bytes (String.ofList cs)

theorem text?_bytes (s : String) : text? (bytes s) = some s := by
  simp [text?, bytes, String.fromUTF8?, String.fromUTF8, s.isValidUTF8]

end Utf8

end FleetWatch
