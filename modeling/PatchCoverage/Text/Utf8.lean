import PatchCoverage.Number.Decimal
import PatchCoverage.Text.Quoted

namespace PatchCoverage

/-!
# UTF-8, strictly

A decoder that takes one octet at a time.  Between two octets of a character
it waits: it knows how many octets are missing and which values the next one
may have.  That range is narrower for a second octet where a longer form than
needed, a surrogate or a number beyond the last code point would arise.

A fault names the octets that make it up: an octet that starts nothing, the
octets before one that does not continue them, or the octets of a character
that the end of the text cuts off.
-/

/-- Why octets are not UTF-8. -/
inductive Utf8Problem where
  /-- No character starts with this octet. -/
  | invalidStart
  /-- The octet that follows does not continue the character. -/
  | invalidContinuation
  /-- The text ends within a character. -/
  | truncated
  deriving DecidableEq, Repr

/-- The first place where a text is not UTF-8. -/
structure Utf8Fault where
  /-- The first octet at fault. -/
  octet : UInt8
  /-- Its position. -/
  start : Nat
  /-- The position after the last octet at fault. -/
  stop : Nat
  /-- What is wrong there. -/
  problem : Utf8Problem
  deriving DecidableEq, Repr

/-- A character of which some octets have been read. -/
structure Utf8Pending where
  /-- The first octet. -/
  lead : UInt8
  /-- The number of octets read. -/
  taken : Nat
  /-- The number of octets missing. -/
  missing : Nat
  /-- The bits read. -/
  value : Nat
  /-- The least value of the next octet. -/
  low : UInt8
  /-- The greatest value of the next octet. -/
  high : UInt8

/-- What an octet at the start of a character announces. -/
inductive Utf8Start where
  /-- A character of one octet. -/
  | single
  /-- A character of several octets. -/
  | several (pending : Utf8Pending)
  /-- No character. -/
  | none

/-- What an octet at the start of a character announces. -/
def utf8Start (octet : UInt8) : Utf8Start :=
  let bits := octet.toNat
  if octet < 0x80 then .single
  else if octet < 0xC2 then .none
  else if octet < 0xE0 then .several ⟨octet, 1, 1, bits % 32, 0x80, 0xBF⟩
  else if octet < 0xF0 then
    .several ⟨octet, 1, 2, bits % 16, if octet = 0xE0 then 0xA0 else 0x80,
      if octet = 0xED then 0x9F else 0xBF⟩
  else if octet < 0xF5 then
    .several ⟨octet, 1, 3, bits % 8, if octet = 0xF0 then 0x90 else 0x80,
      if octet = 0xF4 then 0x8F else 0xBF⟩
  else .none

/-- Decodes the octets from `position` on; `pending` holds the character that
is being read and `decoded` the characters so far, last first. -/
def decodeUtf8From (decoded : List Char) (position : Nat) :
    Option Utf8Pending → List UInt8 → Except Utf8Fault (List Char)
  | none, [] => .ok decoded.reverse
  | some pending, [] =>
    .error ⟨pending.lead, position - pending.taken, position, .truncated⟩
  | none, octet :: rest =>
    match utf8Start octet with
    | .single => decodeUtf8From (Char.ofNat octet.toNat :: decoded) (position + 1) none rest
    | .several pending => decodeUtf8From decoded (position + 1) (some pending) rest
    | .none => .error ⟨octet, position, position + 1, .invalidStart⟩
  | some pending, octet :: rest =>
    if pending.low ≤ octet ∧ octet ≤ pending.high then
      let value := pending.value * 64 + octet.toNat % 64
      if pending.missing ≤ 1 then
        decodeUtf8From (Char.ofNat value :: decoded) (position + 1) none rest
      else
        decodeUtf8From decoded (position + 1)
          (some ⟨pending.lead, pending.taken + 1, pending.missing - 1, value, 0x80, 0xBF⟩) rest
    else
      .error ⟨pending.lead, position - pending.taken, position, .invalidContinuation⟩

/-- The text that octets encode. -/
def decodeUtf8 (octets : List UInt8) : Except Utf8Fault String :=
  (decodeUtf8From [] 0 none octets).map String.ofList

/-- The octets of a text. -/
def encodeUtf8 (text : String) : List UInt8 :=
  text.toUTF8.toList

/-- The wording of a problem. -/
def Utf8Problem.wording : Utf8Problem → String
  | invalidStart => "invalid start byte"
  | invalidContinuation => "invalid continuation byte"
  | truncated => "unexpected end of data"

/-- The wording of a fault: which octets, where, and what is wrong. -/
def Utf8Fault.message (fault : Utf8Fault) : String :=
  let place :=
    if fault.stop = fault.start + 1 then
      "byte 0x" ++ String.ofList (hexDigits 2 fault.octet.toNat) ++ " in position " ++
        integerText fault.start
    else
      "bytes in position " ++ integerText fault.start ++ "-" ++ integerText (fault.stop - 1 : Nat)
  "'utf-8' codec can't decode " ++ place ++ ": " ++ fault.problem.wording

end PatchCoverage
