/-!
# Bytes of texts

Keys, values and header values are bytes; texts are their UTF-8 reading where they have one.
-/

namespace AlertRelay

/-- A sequence of bytes. -/
abbrev Bytes := List UInt8

/-- The UTF-8 bytes of a text. -/
def utf8 (s : String) : Bytes := s.toUTF8.toList

/-- The text that bytes spell in UTF-8. -/
def ofUtf8? (bytes : Bytes) : Option String :=
  String.fromUTF8? (ByteArray.mk bytes.toArray)

end AlertRelay
