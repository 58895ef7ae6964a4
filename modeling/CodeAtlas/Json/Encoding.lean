/-
CodeAtlas.Json.Encoding — JSON documents as bytes.

A document arrives as bytes without a statement of its encoding. A byte order
mark settles it; otherwise the zero bytes among the first four do, since a
document begins with an ASCII character. Without zero bytes it is UTF-8.
-/
import CodeAtlas.Json.Reader
import CodeAtlas.Text.Wide

namespace CodeAtlas.Json

open Text (DecodingError Endian decodeUtf8Lenient decodeUtf16 decodeUtf32)

/-- How the bytes of a document are to be read. -/
inductive Encoding where
  | utf8
  | utf16 (endian : Endian)
  | utf32 (endian : Endian)
  deriving DecidableEq

/-- The encoding that a byte order mark announces, and the length of the
mark. -/
def marked? : List UInt8 → Option (Encoding × Nat)
  | 0x00 :: 0x00 :: 0xFE :: 0xFF :: _ => some (.utf32 .big, 4)
  | 0xFF :: 0xFE :: 0x00 :: 0x00 :: _ => some (.utf32 .little, 4)
  | 0xFE :: 0xFF :: _ => some (.utf16 .big, 2)
  | 0xFF :: 0xFE :: _ => some (.utf16 .little, 2)
  | 0xEF :: 0xBB :: 0xBF :: _ => some (.utf8, 3)
  | _ => none

/-- The encoding that the zeros among the first bytes suggest. -/
def guessed : List UInt8 → Encoding
  | [a, b] =>
      if a = 0 then .utf16 .big else if b = 0 then .utf16 .little else .utf8
  | a :: b :: c :: d :: _ =>
      if a = 0 then (if b = 0 then .utf32 .big else .utf16 .big)
      else if b = 0 then
        (if c = 0 && d = 0 then .utf32 .little else .utf16 .little)
      else .utf8
  | _ => .utf8

/-- The text of a document. Positions of faults count the mark of the wide
encodings, and not that of UTF-8. -/
def decode (bytes : List UInt8) : Except DecodingError (List Char) :=
  match marked? bytes with
  | some (.utf8, n) => decodeUtf8Lenient (bytes.drop n)
  | some (.utf16 endian, n) => decodeUtf16 endian n (bytes.drop n)
  | some (.utf32 endian, n) => decodeUtf32 endian n (bytes.drop n)
  | none =>
      match guessed bytes with
      | .utf8 => decodeUtf8Lenient bytes
      | .utf16 endian => decodeUtf16 endian 0 bytes
      | .utf32 endian => decodeUtf32 endian 0 bytes

/-- Why bytes are no document. -/
inductive BytesError where
  | encoding (cause : DecodingError)
  | text (cause : ReadError)

/-- Read bytes as one value whose containers nest at most `depth` deep. -/
def readBytes (depth : Nat) (bytes : List UInt8) : Except BytesError Value :=
  match decode bytes with
  | .error cause => .error (.encoding cause)
  | .ok text =>
      match document depth text with
      | .error cause => .error (.text cause)
      | .ok v => .ok v

end CodeAtlas.Json
