/-
CodeAtlas.Text.Utf8 — texts as bytes in UTF-8.

`utf8Head` reads one character off a list of bytes. Where there is none it says
how many bytes are at fault: the first byte and those after it that could still
have been part of a character. Three readers are built on it: `decodeUtf8`
stops at the first fault, `decodeUtf8Lenient` does so too but takes an encoded
surrogate for the replacement character, and `repairUtf8` puts the replacement
character in the place of each fault.
-/
import CodeAtlas.Text.Surrogate

namespace CodeAtlas.Text

/-- Bytes that are not a text, where they begin, and why. -/
structure DecodingError where
  codec : String
  start : Nat
  bytes : List UInt8
  reason : String

/-- A byte in two hexadecimal digits. -/
def byteHex (b : UInt8) : String :=
  String.ofList [Nat.digitChar (b.toNat / 16), Nat.digitChar (b.toNat % 16)]

def DecodingError.message (e : DecodingError) : String :=
  "'" ++ e.codec ++ "' codec can't decode "
    ++ (match e.bytes with
        | [b] => "byte 0x" ++ byteHex b ++ " in position " ++ toString e.start
        | bs => "bytes in position " ++ toString e.start ++ "-"
            ++ toString (e.start + bs.length - 1))
    ++ ": " ++ e.reason

/-- A byte that continues a character. -/
def isContinuation (b : UInt8) : Bool := 0x80 ≤ b && b < 0xC0

/-- The second byte may follow the first in a character of three or four
bytes. -/
def isSecond (first second : UInt8) : Bool :=
  isContinuation second &&
    (if first = 0xE0 then 0xA0 ≤ second
     else if first = 0xED then second < 0xA0
     else if first = 0xF0 then 0x90 ≤ second
     else if first = 0xF4 then second < 0x90
     else true)

/-- The bits of a continuation byte. -/
def tailBits (b : UInt8) : Nat := b.toNat % 64

/-- A fault in UTF-8: how many bytes after the first belong to it, and why. -/
structure Utf8Fault where
  extra : Nat
  reason : String

def invalidStart : Utf8Fault := ⟨0, "invalid start byte"⟩

def invalidContinuation (extra : Nat) : Utf8Fault :=
  ⟨extra, "invalid continuation byte"⟩

def unexpectedEnd (extra : Nat) : Utf8Fault := ⟨extra, "unexpected end of data"⟩

/-- The character that begins with the byte `first`, and the number of bytes
after it that belong to the character. -/
def utf8Head (first : UInt8) (rest : List UInt8) : Except Utf8Fault (Char × Nat) :=
  if first < 0x80 then .ok (Char.ofNat first.toNat, 0)
  else if first < 0xC2 then .error invalidStart
  else if first < 0xE0 then
    match rest with
    | [] => .error (unexpectedEnd 0)
    | b :: _ =>
        if isContinuation b then
          .ok (Char.ofNat (first.toNat % 32 * 64 + tailBits b), 1)
        else .error (invalidContinuation 0)
  else if first < 0xF0 then
    match rest with
    | [] => .error (unexpectedEnd 0)
    | b :: rest =>
        if !isSecond first b then .error (invalidContinuation 0)
        else match rest with
          | [] => .error (unexpectedEnd 1)
          | c :: _ =>
              if isContinuation c then
                .ok (Char.ofNat ((first.toNat % 16 * 64 + tailBits b) * 64
                  + tailBits c), 2)
              else .error (invalidContinuation 1)
  else if first < 0xF5 then
    match rest with
    | [] => .error (unexpectedEnd 0)
    | b :: rest =>
        if !isSecond first b then .error (invalidContinuation 0)
        else match rest with
          | [] => .error (unexpectedEnd 1)
          | c :: rest =>
              if !isContinuation c then .error (invalidContinuation 1)
              else match rest with
                | [] => .error (unexpectedEnd 2)
                | d :: _ =>
                    if isContinuation d then
                      .ok (Char.ofNat (((first.toNat % 8 * 64 + tailBits b) * 64
                        + tailBits c) * 64 + tailBits d), 3)
                    else .error (invalidContinuation 2)
  else .error invalidStart

/-- The bytes encode a surrogate in three bytes. -/
def isEncodedSurrogate (first : UInt8) : List UInt8 → Bool
  | b :: c :: _ => first = 0xED && 0xA0 ≤ b && b < 0xC0 && isContinuation c
  | _ => false

/-- Read bytes from a position on; `lenient` takes encoded surrogates for the
replacement character. -/
def utf8From (lenient : Bool) (pos : Nat) :
    List UInt8 → Except DecodingError (List Char)
  | [] => .ok []
  | b :: rest =>
      match utf8Head b rest with
      | .ok (c, extra) =>
          match utf8From lenient (pos + extra + 1) (rest.drop extra) with
          | .ok cs => .ok (c :: cs)
          | .error e => .error e
      | .error fault =>
          if lenient && isEncodedSurrogate b rest then
            match utf8From lenient (pos + 3) (rest.drop 2) with
            | .ok cs => .ok (replacementChar :: cs)
            | .error e => .error e
          else
            .error ⟨"utf-8", pos, b :: rest.take fault.extra, fault.reason⟩
termination_by bytes => bytes.length
decreasing_by all_goals (simp only [List.length_drop, List.length_cons]; omega)

/-- Read bytes as UTF-8. -/
def decodeUtf8 (bytes : List UInt8) : Except DecodingError (List Char) :=
  utf8From false 0 bytes

/-- Read bytes as UTF-8, encoded surrogates as the replacement character. -/
def decodeUtf8Lenient (bytes : List UInt8) : Except DecodingError (List Char) :=
  utf8From true 0 bytes

/-- Read bytes as UTF-8, each fault as the replacement character. -/
def repairUtf8 : List UInt8 → List Char
  | [] => []
  | b :: rest =>
      match utf8Head b rest with
      | .ok (c, extra) => c :: repairUtf8 (rest.drop extra)
      | .error fault => replacementChar :: repairUtf8 (rest.drop fault.extra)
termination_by bytes => bytes.length
decreasing_by all_goals (simp only [List.length_drop, List.length_cons]; omega)

/-- The bytes of a text in UTF-8. -/
def encodeUtf8 (cs : List Char) : List UInt8 := cs.flatMap String.utf8EncodeChar

end CodeAtlas.Text
