namespace PatchCoverage

/-!
# Halves of pairs

The texts of a program may hold half of a pair of 16-bit units, which is no
character and which no encoding has octets for.  The last characters of all,
which are for private use, stand for these halves: a half is a character like
any other until it is written somewhere (`codePoint`).

Where one of these last characters is itself in a text, it is taken for a half.
The names of files, the arguments of the program and what `git` is started with
have no halves: octets that are no text are not looked at there.
-/

/-- The number of the first half. -/
def firstHalf : Nat := 0xD800

/-- The number behind that of the last half. -/
def behindHalves : Nat := 0xE000

/-- Whether a number is that of a half. -/
def isHalfCode (code : Nat) : Bool :=
  firstHalf ≤ code && code < behindHalves

/-- The number of the character that stands for the first half. -/
def firstHalfCharacter : Nat := 0x10F800

/-- The character that stands for a half. -/
def halfCharacter (half : Nat) : Char :=
  Char.ofNat (firstHalfCharacter + (half - firstHalf))

/-- Whether a character stands for a half. -/
def isHalf (c : Char) : Bool :=
  firstHalfCharacter ≤ c.toNat

/-- The number under which a character is escaped. -/
def codePoint (c : Char) : Nat :=
  if isHalf c then c.toNat - firstHalfCharacter + firstHalf else c.toNat

end PatchCoverage
