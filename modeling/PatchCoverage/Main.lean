import PatchCoverage.CommandLine.Files
import PatchCoverage.CommandLine.Program

namespace PatchCoverage

/-!
# Running the program

This module connects the program with the system: it collects the arguments,
the environment and the files that the program looks at, runs it, prints what
it prints and writes the files that it changed.  The system works in UTF-8.
Programs cannot be started from here, so changed files have to be given with
`--changed-files`.
-/

/-- The variables in what the system lists: `name=value`, each ended by a zero
octet. -/
def environmentOfOctets (octets : List UInt8) : Environment :=
  let text := (decodeUtf8 octets).toOption.getD ""
  ⟨(piecesBetween '\x00' text.toList).filterMap fun entry =>
    match entry.dropWhile (· != '=') with
    | [] => none
    | _ :: value => some (String.ofList (entry.takeWhile (· != '=')), String.ofList value)⟩

/-- What stands at a place in the file system, if anything. -/
def probe (parts : List String) : IO (Option FileTree) := do
  try
    let content ← IO.FS.readBinFile ("/" ++ "/".intercalate parts)
    return some (.file content.toList)
  catch
    | .inappropriateType .. => return some (.directory [])
    | _ => return none

/-- Adds what stands at a place to a tree, and the directories above it. -/
def provide (tree : FileTree) (parts : List String) : IO FileTree := do
  let mut tree := tree
  for count in List.range (parts.length + 1) do
    let place := parts.take count
    match tree.find place with
    | .ok _ => pure ()
    | .error .missing =>
      match ← probe place with
      | some node => tree := FileTree.put node tree place
      | none => return tree
    | .error _ => return tree
  return tree

/-- A world with the named files and directories provided. -/
def provideAll (world : World) (names : List PathName) : IO World := do
  let mut files := world.files
  for name in names do
    files ← provide files (world.resolve name).parts
  return { world with files }

/-- All octets of a stream. -/
partial def readAll (stream : IO.FS.Stream) (read : ByteArray) : IO ByteArray := do
  let next ← stream.read 65536
  if next.isEmpty then return read else readAll stream (read ++ next)

/-- A text that no other run has. -/
def freshMark : IO String := do
  let mut digits := []
  for _ in List.range 8 do
    digits := digits ++ hexDigits 4 (← IO.rand 0 0xFFFF)
  return String.ofList digits

/-- The width of the terminal: what the variable `COLUMNS` says, else 80. -/
def terminalWidth (environment : Environment) : Nat :=
  ((environment.get? "COLUMNS").bind String.toNat?).getD 80

/-- The world of this run. -/
def currentWorld (arguments : List String) : IO World := do
  let octets ← try IO.FS.readBinFile "/proc/self/environ" catch _ => pure .empty
  let environment := environmentOfOctets octets.toList
  let world : World :=
    { environment
      files := .directory []
      directory := (PathName.ofText ((environment.get? "PWD").getD "/")).parts
      git := none
      input := []
      columns := terminalWidth environment }
  let world ← provideAll world (CommandLine.namedFiles world arguments)
  let world ← provideAll world (@CommandLine.configuredFiles .utf8 world arguments)
  if CommandLine.readsStandardInput world arguments then
    return { world with input := (← readAll (← IO.getStdin) .empty).toList }
  else
    return world

end PatchCoverage

open PatchCoverage in
/-- Runs the program with the given arguments. -/
def main (arguments : List String) : IO UInt32 := do
  let world ← currentWorld arguments
  let run := @CommandLine.run .utf8 world (← freshMark) arguments
  IO.print run.reply.printed
  IO.eprint run.complaints
  for (parts, content) in CommandLine.changedFiles world.files run.world.files do
    IO.FS.writeBinFile ("/" ++ "/".intercalate parts) ⟨content.toArray⟩
  return UInt32.ofNat run.reply.ending.status
