import DocAudit.Text.Basic

/-!
# UTF-8

Encoding, and strict decoding that reports the first ill-formed sequence. The reported bytes are
the well-formed beginning of that sequence: the first byte alone if already the second one does
not fit.
-/

namespace DocAudit.Text.Utf8

/-- Why a sequence of bytes is not well formed. -/
inductive Reason where
  | invalidStart
  | invalidContinuation
  | unexpectedEnd
  deriving DecidableEq, Repr

/-- The first ill-formed sequence: the position and number of its bytes, and the first byte. -/
structure Fault where
  position : Nat
  count : Nat
  lead : UInt8
  reason : Reason
  deriving DecidableEq, Repr

/-- The wording of a reason. -/
def Reason.message : Reason → Text
  | .invalidStart => "invalid start byte"
  | .invalidContinuation => "invalid continuation byte"
  | .unexpectedEnd => "unexpected end of data"

/-- The message names a single byte by its value and several by their positions. -/
def Fault.message (fault : Fault) : Text :=
  (if fault.count = 1 then
    "'utf-8' codec can't decode byte 0x" ++ hex 2 fault.lead.toNat ++ " in position " ++
      ofNat fault.position
  else
    "'utf-8' codec can't decode bytes in position " ++ ofNat fault.position ++ "-" ++
      ofNat (fault.position + fault.count - 1)) ++ ": " ++ fault.reason.message

/-- The bytes of one character. -/
def encodeChar (c : Char) : List UInt8 :=
  let n := c.toNat
  if n < 0x80 then [n.toUInt8]
  else if n < 0x800 then [(0xC0 + n / 64).toUInt8, (0x80 + n % 64).toUInt8]
  else if n < 0x10000 then
    [(0xE0 + n / 4096).toUInt8, (0x80 + n / 64 % 64).toUInt8, (0x80 + n % 64).toUInt8]
  else
    [(0xF0 + n / 262144).toUInt8, (0x80 + n / 4096 % 64).toUInt8, (0x80 + n / 64 % 64).toUInt8,
      (0x80 + n % 64).toUInt8]

/-- The bytes of a text. -/
def encode (text : Text) : List UInt8 :=
  text.flatMap encodeChar

/-- Whether a byte continues a sequence. -/
def isContinuation (byte : UInt8) : Bool :=
  0x80 ≤ byte.toNat && byte.toNat ≤ 0xBF

/-- Whether a byte may stand second after the given first byte of a longer sequence. The
restrictions exclude overlong forms, surrogates and values beyond the last code point. -/
def isSecond (lead byte : UInt8) : Bool :=
  isContinuation byte &&
    (match lead.toNat with
    | 0xE0 => 0xA0 ≤ byte.toNat
    | 0xED => byte.toNat ≤ 0x9F
    | 0xF0 => 0x90 ≤ byte.toNat
    | 0xF4 => byte.toNat ≤ 0x8F
    | _ => true)

/-- Decode bytes, the first of which stands at the given position. -/
def decodeFrom : Nat → List UInt8 → Except Fault Text
  | _, [] => .ok []
  | position, b :: rest =>
    let stop (count : Nat) (reason : Reason) : Except Fault Text :=
      .error ⟨position, count, b, reason⟩
    let lead := b.toNat
    if lead < 0x80 then (Char.ofNat lead :: ·) <$> decodeFrom (position + 1) rest
    else if lead < 0xC2 then stop 1 .invalidStart
    else if lead < 0xE0 then
      match rest with
      | [] => stop 1 .unexpectedEnd
      | b₁ :: rest =>
        if !isSecond b b₁ then stop 1 .invalidContinuation
        else
          (Char.ofNat ((lead - 0xC0) * 64 + (b₁.toNat - 0x80)) :: ·)
            <$> decodeFrom (position + 2) rest
    else if lead < 0xF0 then
      match rest with
      | [] => stop 1 .unexpectedEnd
      | b₁ :: rest =>
        if !isSecond b b₁ then stop 1 .invalidContinuation
        else
          match rest with
          | [] => stop 2 .unexpectedEnd
          | b₂ :: rest =>
            if !isContinuation b₂ then stop 2 .invalidContinuation
            else
              (Char.ofNat ((lead - 0xE0) * 4096 + (b₁.toNat - 0x80) * 64 + (b₂.toNat - 0x80)) :: ·)
                <$> decodeFrom (position + 3) rest
    else if lead < 0xF5 then
      match rest with
      | [] => stop 1 .unexpectedEnd
      | b₁ :: rest =>
        if !isSecond b b₁ then stop 1 .invalidContinuation
        else
          match rest with
          | [] => stop 2 .unexpectedEnd
          | b₂ :: rest =>
            if !isContinuation b₂ then stop 2 .invalidContinuation
            else
              match rest with
              | [] => stop 3 .unexpectedEnd
              | b₃ :: rest =>
                if !isContinuation b₃ then stop 3 .invalidContinuation
                else
                  (Char.ofNat ((lead - 0xF0) * 262144 + (b₁.toNat - 0x80) * 4096 +
                    (b₂.toNat - 0x80) * 64 + (b₃.toNat - 0x80)) :: ·)
                    <$> decodeFrom (position + 4) rest
    else stop 1 .invalidStart

/-- Decode a whole sequence of bytes. -/
def decode (bytes : List UInt8) : Except Fault Text :=
  decodeFrom 0 bytes

end DocAudit.Text.Utf8
