namespace ClassDiagram.Text

/-- Why bytes are not UTF-8. -/
inductive Utf8Cause where
  /-- A byte that begins no character. -/
  | start
  /-- A byte that cannot follow the bytes before it. -/
  | continuation
  /-- The text ends inside a character. -/
  | truncated
deriving Repr, DecidableEq

/-- The words for a cause. -/
def Utf8Cause.reason : Utf8Cause → String
  | .start => "invalid start byte"
  | .continuation => "invalid continuation byte"
  | .truncated => "unexpected end of data"

/-- The place at which reading stopped: the first byte of the broken character, its position, and how
many bytes of it were taken in. -/
structure Utf8Fault where
  cause : Utf8Cause
  first : UInt8
  position : Nat
  width : Nat
deriving Repr, DecidableEq

/-- Two digits for a byte. -/
def hexByte (b : UInt8) : String :=
  let digit (n : Nat) : Char := (Nat.toDigits 16 n).headD '0'
  String.ofList [digit (b.toNat / 16), digit (b.toNat % 16)]

/-- One broken byte is quoted, several are given by their positions. -/
def Utf8Fault.message (fault : Utf8Fault) : String :=
  let place :=
    if fault.width ≤ 1 then
      "byte 0x" ++ hexByte fault.first ++ " in position " ++ toString fault.position
    else
      "bytes in position " ++ toString fault.position ++ "-" ++
        toString (fault.position + fault.width - 1)
  "'utf-8' codec can't decode " ++ place ++ ": " ++ fault.cause.reason

/-- Is the byte of the form that continues a character? -/
def isContinuation (b : UInt8) : Bool :=
  128 ≤ b.toNat && b.toNat < 192

/-- How many bytes follow a first byte, and the range in which the second one lies; `none` for a byte that
begins no character. The ranges leave out overlong forms, surrogates and code points above the last. -/
def sequenceOf (first : UInt8) : Option (Nat × Nat × Nat) :=
  let n := first.toNat
  if n < 128 then some (0, 0, 0)
  else if n < 0xC2 then none
  else if n < 0xE0 then some (1, 0x80, 0xBF)
  else if n == 0xE0 then some (2, 0xA0, 0xBF)
  else if n == 0xED then some (2, 0x80, 0x9F)
  else if n < 0xF0 then some (2, 0x80, 0xBF)
  else if n == 0xF0 then some (3, 0x90, 0xBF)
  else if n < 0xF4 then some (3, 0x80, 0xBF)
  else if n == 0xF4 then some (3, 0x80, 0x8F)
  else none

/-- The payload of a first byte that `following` bytes follow. -/
def leadBits (first : UInt8) (following : Nat) : Nat :=
  match following with
  | 0 => first.toNat
  | 1 => first.toNat % 32
  | 2 => first.toNat % 16
  | _ => first.toNat % 8

/-- What one step of reading yields: a character with the number of bytes it took, or a cause with the
number of bytes that were fine. -/
inductive Utf8Step where
  | char (c : Char) (width : Nat)
  | broken (cause : Utf8Cause) (width : Nat)

/-- Reads the first character of `first :: rest`. -/
def readChar (first : UInt8) (rest : List UInt8) : Utf8Step :=
  match sequenceOf first with
  | none => .broken .start 1
  | some (0, _, _) => .char (Char.ofNat first.toNat) 1
  | some (following, lo, hi) =>
    match rest with
    | [] => .broken .truncated 1
    | second :: rest =>
      if second.toNat < lo || hi < second.toNat then .broken .continuation 1
      else
        let tail := rest.take (following - 1)
        let good := tail.takeWhile isContinuation
        if good.length = following - 1 then
          let bits := (second :: good).foldl (fun n b => n * 64 + b.toNat % 64) (leadBits first following)
          .char (Char.ofNat bits) (following + 1)
        else if good.length = tail.length then .broken .truncated (2 + good.length)
        else .broken .continuation (2 + good.length)

/-- Reads characters from byte `position` on, up to the first fault. A character takes `skip + 1` bytes:
those still belonging to the last one are passed over. -/
def decodeFrom (position skip : Nat) : List UInt8 → Except Utf8Fault (List Char)
  | [] => .ok []
  | first :: rest =>
    match skip with
    | skip + 1 => decodeFrom (position + 1) skip rest
    | 0 =>
      match readChar first rest with
      | .broken cause width => .error ⟨cause, first, position, width⟩
      | .char c width => (decodeFrom (position + 1) (width - 1) rest).map (c :: ·)

/-- The text that the bytes spell, or the first fault. -/
def decodeUtf8 (bytes : List UInt8) : Except Utf8Fault String :=
  (decodeFrom 0 0 bytes).map String.ofList

/-- The bytes that spell a text. -/
def encodeUtf8 (s : String) : List UInt8 :=
  s.toByteArray.toList

end ClassDiagram.Text
