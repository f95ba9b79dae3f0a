/-!
# Bytes as text

* `Utf8.decode?`: the text that some bytes are, if they are well formed.
* `Utf8.decodeLossy`: a text for any bytes, with a mark in the place of what is not well formed.
-/

namespace ModuleHost.Text.Utf8

/-- The character in the place of bytes that are none. -/
def mark : Char := '\uFFFD'

/-- Whether a byte continues a character. -/
def continues (b : UInt8) : Bool :=
  0x80 ≤ b && b ≤ 0xBF

/-- Whether `c` can be the second byte of a character of three bytes that starts with `b`. -/
def secondOfThree (b c : UInt8) : Bool :=
  if b == 0xE0 then 0xA0 ≤ c && c ≤ 0xBF
  else if b == 0xED then 0x80 ≤ c && c ≤ 0x9F
  else 0xE1 ≤ b && b ≤ 0xEF && continues c

/-- Whether `c` can be the second byte of a character of four bytes that starts with `b`. -/
def secondOfFour (b c : UInt8) : Bool :=
  if b == 0xF0 then 0x90 ≤ c && c ≤ 0xBF
  else if b == 0xF4 then 0x80 ≤ c && c ≤ 0x8F
  else 0xF1 ≤ b && b ≤ 0xF3 && continues c

/-- The low bits that a byte adds to a character. -/
def bits (b : UInt8) (count : Nat) : Nat :=
  b.toNat % Nat.pow 2 count

/-- **Any bytes as characters.** The longest start of a character that does not go on as one is
replaced by one mark. -/
def decodeChars : List UInt8 → List Char
  | [] => []
  | b :: r =>
    if b < 0x80 then Char.ofNat b.toNat :: decodeChars r
    else if 0xC2 ≤ b && b ≤ 0xDF then
      match r with
      | c :: r' =>
        if continues c then Char.ofNat (bits b 5 * 64 + bits c 6) :: decodeChars r'
        else mark :: decodeChars (c :: r')
      | [] => [mark]
    else if 0xE0 ≤ b && b ≤ 0xEF then
      match r with
      | c :: r' =>
        if secondOfThree b c then
          match r' with
          | e :: r'' =>
            if continues e then
              Char.ofNat ((bits b 4 * 64 + bits c 6) * 64 + bits e 6) :: decodeChars r''
            else mark :: decodeChars (e :: r'')
          | [] => [mark]
        else mark :: decodeChars (c :: r')
      | [] => [mark]
    else if 0xF0 ≤ b && b ≤ 0xF4 then
      match r with
      | c :: r' =>
        if secondOfFour b c then
          match r' with
          | e :: r'' =>
            if continues e then
              match r'' with
              | f :: r''' =>
                if continues f then
                  Char.ofNat (((bits b 3 * 64 + bits c 6) * 64 + bits e 6) * 64 + bits f 6) ::
                    decodeChars r'''
                else mark :: decodeChars (f :: r''')
              | [] => [mark]
            else mark :: decodeChars (e :: r'')
          | [] => [mark]
        else mark :: decodeChars (c :: r')
      | [] => [mark]
    else mark :: decodeChars r

/-- A text for any bytes. -/
def decodeLossy (bytes : List UInt8) : String :=
  String.ofList (decodeChars bytes)

/-- The bytes of a text. -/
def encode (s : String) : List UInt8 :=
  s.toUTF8.toList

/-- **The text that some bytes are.** -/
def decode? (bytes : List UInt8) : Option String :=
  String.fromUTF8? (ByteArray.mk bytes.toArray)

end ModuleHost.Text.Utf8
