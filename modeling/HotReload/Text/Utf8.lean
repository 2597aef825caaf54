import HotReload.Text.Numeral
/-!
The UTF-8 form of a text.

* `Text.toUtf8` encodes, `textOfUtf8` decodes or says where and why the bytes are no
  text (`Utf8Error`).
* A failure covers the bytes of the sequence that was begun: up to the byte that does
  not continue it, or up to the end of the data.
-/

namespace HotReload

/-- The bytes of a text. -/
def Text.toUtf8 (text : Text) : List UInt8 := text.flatMap String.utf8EncodeChar

/-- Why bytes are no UTF-8. -/
inductive Utf8Reason where
  | invalidStart
  | invalidContinuation
  | unexpectedEnd
  deriving DecidableEq, Repr

/-- The words for a reason. -/
def Utf8Reason.message : Utf8Reason → Text
  | .invalidStart => "invalid start byte"
  | .invalidContinuation => "invalid continuation byte"
  | .unexpectedEnd => "unexpected end of data"

/-- The first sequence of bytes that stands for no character: its first byte, the
positions of its first and its last byte, and what is wrong with it. -/
structure Utf8Error where
  byte : UInt8
  first : Nat
  last : Nat
  reason : Utf8Reason
  deriving DecidableEq, Repr

/-- One bad byte is shown, of several only the positions are given. -/
def Utf8Error.message (e : Utf8Error) : Text :=
  (if e.first = e.last then
    "'utf-8' codec can't decode byte 0x" ++ padded 16 2 e.byte.toNat ++ " in position " ++
      decimal e.first
  else
    "'utf-8' codec can't decode bytes in position " ++ decimal e.first ++ "-" ++
      decimal e.last) ++ ": " ++ e.reason.message

/-- The bytes that continue a sequence. -/
def isTailByte (b : UInt8) : Bool := 0x80 ≤ b && b ≤ 0xBF

/-- Whether `b` may follow the first byte `a` of a sequence of three or four: it
continues the sequence, and the character is not shorter in form, no surrogate and
not beyond the last code point. -/
def isSecondByte (a b : UInt8) : Bool :=
  isTailByte b && (a != 0xE0 || 0xA0 ≤ b) && (a != 0xED || b < 0xA0) &&
    (a != 0xF0 || 0x90 ≤ b) && (a != 0xF4 || b < 0x90)

/-- The six payload bits of a byte that continues a sequence. -/
def tailBits (b : UInt8) : Nat := b.toNat - 0x80

/-- Decodes the bytes that start at `position`. -/
def decodeUtf8From (position : Nat) : List UInt8 → Except Utf8Error Text
  | [] => .ok []
  | a :: rest =>
      let refuse (length : Nat) (reason : Utf8Reason) : Except Utf8Error Text :=
        .error ⟨a, position, position + length - 1, reason⟩
      if a < 0x80 then
        (decodeUtf8From (position + 1) rest).map (Char.ofNat a.toNat :: ·)
      else if a < 0xC2 then refuse 1 .invalidStart
      else if a < 0xE0 then
        match rest with
        | [] => refuse 1 .unexpectedEnd
        | b :: rest =>
            if isTailByte b then
              (decodeUtf8From (position + 2) rest).map
                (Char.ofNat ((a.toNat - 0xC0) * 0x40 + tailBits b) :: ·)
            else refuse 1 .invalidContinuation
      else if a < 0xF0 then
        match rest with
        | [] => refuse 1 .unexpectedEnd
        | b :: rest =>
            if isSecondByte a b then
              match rest with
              | [] => refuse 2 .unexpectedEnd
              | c :: rest =>
                  if isTailByte c then
                    (decodeUtf8From (position + 3) rest).map
                      (Char.ofNat
                        ((a.toNat - 0xE0) * 0x1000 + tailBits b * 0x40 + tailBits c) :: ·)
                  else refuse 2 .invalidContinuation
            else refuse 1 .invalidContinuation
      else if a < 0xF5 then
        match rest with
        | [] => refuse 1 .unexpectedEnd
        | b :: rest =>
            if isSecondByte a b then
              match rest with
              | [] => refuse 2 .unexpectedEnd
              | c :: rest =>
                  if isTailByte c then
                    match rest with
                    | [] => refuse 3 .unexpectedEnd
                    | d :: rest =>
                        if isTailByte d then
                          (decodeUtf8From (position + 4) rest).map
                            (Char.ofNat ((a.toNat - 0xF0) * 0x40000 + tailBits b * 0x1000 +
                              tailBits c * 0x40 + tailBits d) :: ·)
                        else refuse 3 .invalidContinuation
                  else refuse 2 .invalidContinuation
            else refuse 1 .invalidContinuation
      else refuse 1 .invalidStart

/-- The text whose UTF-8 form the bytes are. -/
def textOfUtf8 (bytes : List UInt8) : Except Utf8Error Text := decodeUtf8From 0 bytes

end HotReload
