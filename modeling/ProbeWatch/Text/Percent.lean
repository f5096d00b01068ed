import ProbeWatch.Text.Hex

/-!
# Percent-encoding

A path segment keeps the RFC 3986 unreserved characters and writes every other UTF-8 byte as a
triplet.  Decoding reads triplets back and passes every other byte through.
-/

namespace ProbeWatch.Text

/-- Whether the byte is the ASCII code of an RFC 3986 unreserved character. -/
def isUnreserved (byte : UInt8) : Bool :=
  (65 ≤ byte && byte ≤ 90) || (97 ≤ byte && byte ≤ 122) || (48 ≤ byte && byte ≤ 57) ||
    byte == 45 || byte == 46 || byte == 95 || byte == 126

/-- The triplet of a byte. -/
def percentTriplet (byte : UInt8) : List Char :=
  ['%', upperHexDigit (byte.toNat / 16), upperHexDigit (byte.toNat % 16)]

/-- The characters that stand for one byte, where some bytes stand for themselves. -/
def percentByte (isKept : UInt8 → Bool) (byte : UInt8) : List Char :=
  if isKept byte then [Char.ofNat byte.toNat] else percentTriplet byte

/-- The UTF-8 bytes of a run of characters. -/
def utf8Bytes (text : List Char) : List UInt8 :=
  text.flatMap String.utf8EncodeChar

/-- The encoding of a path segment. -/
def percentEncode (segment : List Char) : List Char :=
  (utf8Bytes segment).flatMap (percentByte isUnreserved)

/-- The path segment that carries `segment`. -/
def encodeSegment (segment : String) : String :=
  String.ofList (percentEncode segment.toList)

/-- The bytes that an encoded segment stands for. -/
def percentDecode : List Char → List UInt8
  | [] => []
  | '%' :: high :: low :: rest =>
      match hexValue? high, hexValue? low with
      | some upper, some lower => UInt8.ofNat (upper * 16 + lower) :: percentDecode rest
      | _, _ => 37 :: percentDecode (high :: low :: rest)
  | c :: rest => String.utf8EncodeChar c ++ percentDecode rest

theorem utf8Bytes_append (left right : List Char) :
    utf8Bytes (left ++ right) = utf8Bytes left ++ utf8Bytes right := by
  simp [utf8Bytes]

/-- Encoding distributes over concatenation. -/
theorem percentEncode_append (left right : List Char) :
    percentEncode (left ++ right) = percentEncode left ++ percentEncode right := by
  simp [percentEncode, utf8Bytes_append]

end ProbeWatch.Text
