/-!
# Text from any bytes

Bytes that are not valid text are read with a replacement character for each of their maximal parts:
the longest beginning of a character, or a single byte that begins none.
-/

namespace RouteRegistrar.Text

/-- What a byte allows to follow it in a character of several bytes: the range of the second byte,
and the number of further bytes behind that. -/
def secondByte? (first : UInt8) : Option (UInt8 × UInt8 × Nat) :=
  if 0xc2 ≤ first && first ≤ 0xdf then some (0x80, 0xbf, 0)
  else if first = 0xe0 then some (0xa0, 0xbf, 1)
  else if first = 0xed then some (0x80, 0x9f, 1)
  else if 0xe1 ≤ first && first ≤ 0xef then some (0x80, 0xbf, 1)
  else if first = 0xf0 then some (0x90, 0xbf, 2)
  else if first = 0xf4 then some (0x80, 0x8f, 2)
  else if 0xf1 ≤ first && first ≤ 0xf3 then some (0x80, 0xbf, 2)
  else none

/-- Whether a byte continues a character. -/
def isContinuation (byte : UInt8) : Bool := 0x80 ≤ byte && byte ≤ 0xbf

/-- The code point that a character begins with, given by its first byte. -/
def leadValue (first : UInt8) : Nat :=
  if first < 0xe0 then first.toNat - 0xc0
  else if first < 0xf0 then first.toNat - 0xe0
  else first.toNat - 0xf0

/-- Reads up to `count` more bytes of a character. Returns the code point, whether all of them were
there, and what follows. -/
def continueChar (value : Nat) : Nat → List UInt8 → Nat × Bool × List UInt8
  | 0, bytes => (value, true, bytes)
  | _ + 1, [] => (value, false, [])
  | count + 1, byte :: rest =>
    if isContinuation byte then continueChar (value * 64 + (byte.toNat - 0x80)) count rest
    else (value, false, byte :: rest)

/-- The character at the beginning of some bytes, and what follows it. -/
def lossyChar (first : UInt8) (rest : List UInt8) : Char × List UInt8 :=
  if first < 0x80 then (Char.ofNat first.toNat, rest)
  else
    match secondByte? first, rest with
    | some (low, high, more), second :: behind =>
      if low ≤ second && second ≤ high then
        let (value, isWhole, left) :=
          continueChar (leadValue first * 64 + (second.toNat - 0x80)) more behind
        (if isWhole then Char.ofNat value else '\ufffd', left)
      else ('\ufffd', rest)
    | _, _ => ('\ufffd', rest)

/-- The characters of some bytes, at most as many as there are bytes. -/
def lossyChars : Nat → List UInt8 → List Char
  | 0, _ => []
  | _, [] => []
  | fuel + 1, first :: rest =>
    let (c, left) := lossyChar first rest
    c :: lossyChars fuel left

/-- The text of some bytes. -/
def decodeLossy (bytes : ByteArray) : String :=
  match String.fromUTF8? bytes with
  | some text => text
  | none => String.ofList (lossyChars bytes.size bytes.toList)

end RouteRegistrar.Text
