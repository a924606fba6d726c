/-!
# Bytes of a text

The UTF-8 form of a text, and a reading of any bytes as text. A sequence that breaks off, or a byte
that starts none, is read as one replacement character.
-/

namespace SeverityLog.Text

def bytes (s : String) : List UInt8 := s.toList.flatMap String.utf8EncodeChar

theorem bytes_append (s t : String) : bytes (s ++ t) = bytes s ++ bytes t := by
  simp [bytes]

/-- How many bytes follow the first byte of a sequence; none follow a byte that starts none. -/
def followers (lead : UInt8) : Nat :=
  if 0xC2 ≤ lead && lead ≤ 0xDF then 1
  else if 0xE0 ≤ lead && lead ≤ 0xEF then 2
  else if 0xF0 ≤ lead && lead ≤ 0xF4 then 3
  else 0

/-- Whether a byte may stand second. The bounds exclude overlong forms, surrogates and numbers
beyond U+10FFFF. -/
def isSecond (lead b : UInt8) : Bool :=
  (if lead == 0xE0 then 0xA0 else if lead == 0xF0 then 0x90 else 0x80) ≤ b &&
  b ≤ (if lead == 0xED then 0x9F else if lead == 0xF4 then 0x8F else 0xBF)

def isContinuation (b : UInt8) : Bool := 0x80 ≤ b && b ≤ 0xBF

/-- The bytes after `lead` that belong to its sequence. -/
def sequenceTail (lead : UInt8) : List UInt8 → List UInt8
  | [] => []
  | b :: rest =>
    if followers lead > 0 && isSecond lead b then
      b :: (rest.take (followers lead - 1)).takeWhile isContinuation
    else []

def sequenceChar (lead : UInt8) (tail : List UInt8) : Char :=
  let high := lead.toNat % (if tail.length = 1 then 32 else if tail.length = 2 then 16 else 8)
  Char.ofNat (tail.foldl (fun n b => n * 64 + b.toNat % 64) high)

def charsLossy : List UInt8 → List Char
  | [] => []
  | b :: rest =>
    if b < 0x80 then Char.ofNat b.toNat :: charsLossy rest
    else
      let tail := sequenceTail b rest
      let c := if followers b > 0 && tail.length == followers b then sequenceChar b tail
        else Char.ofNat 0xFFFD
      c :: charsLossy (rest.drop tail.length)
  termination_by bs => bs.length
  decreasing_by all_goals simp; try omega

def decodeLossy (bs : List UInt8) : String := String.ofList (charsLossy bs)

end SeverityLog.Text
