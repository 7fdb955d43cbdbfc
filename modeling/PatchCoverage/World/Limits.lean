import PatchCoverage.Text.HalfPair

namespace PatchCoverage

/-!
# Limits of the system

Not every text can leave the program: the output channel and the files of the
workflow step have an encoding, and it may lack characters.  A text goes out as a
whole or not at all.  The error channel is no limit, since it shows what it has
no code for in an escaped form.  A document may also be nested more deeply than
its reader can follow.
-/

/-- What the system cannot do. -/
class Limits where
  /-- Whether the output channel has a code for a character. -/
  canPrint : Char → Bool
  /-- Whether the files of the step have a code for a character. -/
  canWrite : Char → Bool
  /-- Whether a document is nested too deeply to be read. -/
  isTooDeep : String → Bool
  /-- Every encoding has line ends. -/
  canPrint_newline : canPrint '\n' = true

namespace Limits

/-- Whether a text can be printed on the output channel. -/
def prints [Limits] (text : String) : Bool :=
  text.toList.all canPrint

theorem prints_empty [Limits] : prints "" = true :=
  rfl

theorem prints_append [Limits] (text rest : String) :
    prints (text ++ rest) = (prints text && prints rest) := by
  simp only [prints, String.toList_append, List.all_append]

/-- A line can be printed if its text can. -/
theorem prints_line [Limits] (line : String) : prints (line ++ "\n") = prints line := by
  have hFeed : prints "\n" = true := by
    simp only [prints, String.reduceToList, List.all_cons, canPrint_newline, List.all_nil,
      Bool.and_self]
  rw [prints_append, hFeed, Bool.and_true]

/-- Whether a text can be written to a file of the step. -/
def writes [Limits] (text : String) : Bool :=
  text.toList.all canWrite

theorem writes_empty [Limits] : writes "" = true :=
  rfl

/-- A system that works in UTF-8, for documents of any depth. -/
@[reducible]
def utf8 : Limits where
  canPrint c := !isHalf c
  canWrite c := !isHalf c
  isTooDeep _ := false
  canPrint_newline := by decide

end Limits

end PatchCoverage
