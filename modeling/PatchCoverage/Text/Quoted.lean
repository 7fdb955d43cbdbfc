import PatchCoverage.Text.HalfPair
import PatchCoverage.Text.Printable

namespace PatchCoverage

/-!
# Quoted text in messages

A message quotes a value between single quotes, or between double quotes when
it holds single quotes and no double ones.  The quote in use and the backslash
are escaped, and so is every character that is not printable.
-/

/-- The small hexadecimal digits of a number, at least `count` of them. -/
def hexDigits (count value : Nat) : List Char :=
  let digits := Nat.toDigits 16 value
  List.replicate (count - digits.length) '0' ++ digits

/-- The shortest escape of a code point: two, four or eight digits. -/
def escapeCodePoint (code : Nat) : List Char :=
  if code < 0x100 then '\\' :: 'x' :: hexDigits 2 code
  else if code < 0x10000 then '\\' :: 'u' :: hexDigits 4 code
  else '\\' :: 'U' :: hexDigits 8 code

/-- One character between quotes of the given kind. -/
def quoteCharacter (quote : Char) (c : Char) : List Char :=
  if c = quote || c = '\\' then ['\\', c]
  else if c = '\n' then ['\\', 'n']
  else if c = '\r' then ['\\', 'r']
  else if c = '\t' then ['\\', 't']
  else if isPrintable c then [c]
  else escapeCodePoint (codePoint c)

/-- The quote for a text of these characters. -/
def chooseQuote (characters : List Char) : Char :=
  if characters.contains '\'' && !characters.contains '"' then '"' else '\''

/-- A text in quotes. -/
def quoted (text : String) : String :=
  let quote := chooseQuote text.toList
  String.ofList (quote :: text.toList.flatMap (quoteCharacter quote) ++ [quote])

/-- One octet between quotes of the given kind. -/
def quoteOctet (quote : Char) (octet : UInt8) : List Char :=
  if octet < 127 then quoteCharacter quote (Char.ofNat octet.toNat)
  else escapeCodePoint octet.toNat

/-- A string of octets in quotes, marked by a leading `b`. -/
def quotedOctets (octets : List UInt8) : String :=
  let quote := chooseQuote (octets.map fun octet => Char.ofNat octet.toNat)
  String.ofList ('b' :: quote :: octets.flatMap (quoteOctet quote) ++ [quote])

end PatchCoverage
