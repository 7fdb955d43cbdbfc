import PatchCoverage.Proofs.Publish.Printed

namespace PatchCoverage

/-!
# What the output channel does to a run

A channel that lacks codes can do one thing to a run: end it at the first text that it
cannot print.  So a run is the one that there is where every character has a code, if the
channel has a code for all that this one prints.  Else it ends before it has written to
a file.

The main statement is `CommandLine.isCarried_run`.  It goes through a run part by part:
all that is printed is printed before anything is written.
-/

/-- The same system with an output channel that has a code for every character. -/
@[reducible]
def Limits.withEveryCode [Limits] : Limits :=
  { ‹Limits› with
    canPrint := fun _ => true
    canPrint_newline := rfl }

section Channel

variable [Limits]

theorem Limits.prints_withEveryCode (text : String) : withEveryCode.prints text = true :=
  List.all_eq_true.mpr fun _ _ => rfl

/-- What the channel does to something that prints a text: nothing, if it has codes for all
of the text; else it ends it. -/
structure Limits.Carried (text : String) (same ended : Prop) : Prop where
  whole : Limits.prints text = true → same
  cut : Limits.prints text = false → ended

namespace Limits.Carried

variable {text rest : String} {same ended same' ended' : Prop}

theorem of_eq_empty (h : text = "") (hSame : same) : Carried text same ended := by
  refine ⟨fun _ => hSame, fun hCut => ?_⟩
  rw [h, prints_empty] at hCut
  cases hCut

theorem imp (h : Carried text same ended) (hSame : same → same') (hEnded : ended → ended') :
    Carried text same' ended' :=
  ⟨fun hWhole => hSame (h.whole hWhole), fun hCut => hEnded (h.cut hCut)⟩

/-- What prints a text and then the rest goes on with the rest unless the channel has ended
it. -/
theorem append (h : Carried text same ended) (hRest : same → Carried rest same' ended')
    (hEnded : ended → ended') : Carried (text ++ rest) same' ended' := by
  cases hText : prints text with
  | true =>
      -- What the channel has codes for in all of it, it has codes for in the rest.
      have hAfter := hRest (h.whole hText)
      constructor <;> rw [prints_append, hText, Bool.true_and]
      · exact hAfter.whole
      · exact hAfter.cut
  | false =>
      refine ⟨fun hWhole => ?_, fun _ => hEnded (h.cut hText)⟩
      rw [prints_append, hText] at hWhole
      cases hWhole

end Limits.Carried

namespace Console

/-- What printing comes to on a channel, next to what it comes to where every character
has a code. -/
def Printed.IsCarried (printed full : Printed) : Prop :=
  Limits.Carried full.text (printed = full) (printed.error? = some .encoding)

namespace Printed

theorem isCarried_cons (text : String) {rest full : Printed} (h : rest.IsCarried full) :
    (cons text rest).IsCarried (@cons Limits.withEveryCode text full) := by
  rw [@cons_of_prints Limits.withEveryCode _ (Limits.prints_withEveryCode text)]
  have hText : Limits.Carried text (Limits.prints text = true) (Limits.prints text = false) :=
    ⟨id, id⟩
  refine hText.append (fun hPrints => ?_) fun hRefused => ?_
  · rw [cons_of_prints hPrints]
    exact Limits.Carried.imp h (fun hSame => by rw [hSame]) id
  · rw [cons_of_not_prints hRefused]

theorem IsCarried.andThen {first second full next : Printed} (hFirst : first.IsCarried full)
    (hSecond : second.IsCarried next) : (first.andThen second).IsCarried (full.andThen next) := by
  have hEnded (hError : first.error? = some .encoding) :
      (first.andThen second).error? = some .encoding := by
    simp only [Printed.andThen, hError]
  cases hError : full.error? with
  | some error =>
      -- A wrong tag ends the printing on any channel, so that nothing follows it on this one.
      have hFull : full.andThen next = full := by
        simp only [Printed.andThen, hError]
      rw [hFull]
      refine Limits.Carried.imp hFirst (fun hSame => ?_) hEnded
      rw [hSame, Printed.andThen, hError]
  | none =>
      have hFull (after : Printed) :
          full.andThen after = { after with text := full.text ++ after.text } := by
        simp only [Printed.andThen, hError]
      rw [hFull]
      refine Limits.Carried.append hFirst (fun hSame => ?_) hEnded
      rw [hSame, hFull]
      exact Limits.Carried.imp hSecond (fun hRest => by rw [hRest]) id

end Printed

theorem isCarried_printTexts (texts : List String) :
    (printTexts texts).IsCarried (@printTexts Limits.withEveryCode texts) := by
  induction texts with
  | nil => exact Limits.Carried.of_eq_empty rfl rfl
  | cons text texts ih => exact Printed.isCarried_cons text ih

theorem isCarried_print (terminal : Terminal) (blocks : List Block) :
    (print terminal blocks).IsCarried (@print Limits.withEveryCode terminal blocks) := by
  induction blocks with
  | nil => exact Limits.Carried.of_eq_empty rfl rfl
  | cons block blocks ih =>
      simp only [print]
      cases block.lines terminal with
      | error error => exact Limits.Carried.of_eq_empty rfl rfl
      | ok lines => exact Printed.isCarried_cons (joinLines lines) ih

end Console

namespace CommandLine

/-! ## Replies -/

/-- A reply on a channel, next to the reply where every character has a code. -/
def Reply.IsCarried (reply full : Reply) : Prop :=
  Limits.Carried full.printed (reply = full) (reply.ending = .uncaught .encoding)

namespace Reply

theorem isCarried_of_printed_eq_empty {reply : Reply} (h : reply.printed = "") :
    reply.IsCarried reply :=
  Limits.Carried.of_eq_empty h rfl

theorem isCarried_ofPrinted {printed full : Console.Printed} (h : printed.IsCarried full)
    (complaint : String) (ending : Ending) :
    (ofPrinted printed complaint ending).IsCarried (ofPrinted full complaint ending) := by
  have hPrinted : (ofPrinted full complaint ending).printed = full.text := by
    unfold ofPrinted
    split <;> rfl
  unfold IsCarried
  rw [hPrinted]
  refine Limits.Carried.imp h (fun hSame => by rw [hSame]) fun hError => ?_
  rw [ofPrinted, hError]
  rfl

theorem isCarried_ofBlocks (terminal : Console.Terminal) (blocks : List Console.Block)
    (complaint : String) (ending : Ending) :
    (ofBlocks terminal blocks complaint ending).IsCarried
      (@ofBlocks Limits.withEveryCode terminal blocks complaint ending) :=
  isCarried_ofPrinted (Console.isCarried_print terminal blocks) complaint ending

theorem isCarried_ofText (text : String) (ending : Ending) :
    (ofText text ending).IsCarried (@ofText Limits.withEveryCode text ending) :=
  isCarried_ofPrinted (Console.isCarried_printTexts [text]) "" ending

theorem isCarried_ofLoadError (terminal : Console.Terminal) (error : LoadError) :
    (ofLoadError terminal error).IsCarried
      (@ofLoadError Limits.withEveryCode terminal error) := by
  unfold ofLoadError
  cases error.message? with
  | some message => exact isCarried_ofBlocks terminal _ _ _
  | none => exact isCarried_of_printed_eq_empty rfl

end Reply

theorem CheckStop.isCarried_reply (terminal : Console.Terminal) (stop : CheckStop) :
    (stop.reply terminal).IsCarried (@CheckStop.reply Limits.withEveryCode terminal stop) := by
  have hError (message? : Option String) (uncaught : Uncaught) :
      (Reply.ofError message? uncaught).IsCarried (.ofError message? uncaught) := by
    cases message? <;> exact Reply.isCarried_of_printed_eq_empty rfl
  cases stop with
  | load error => exact Reply.isCarried_ofLoadError terminal error
  | invalid problems =>
      exact Reply.isCarried_ofBlocks terminal (problemCount problems :: problemList problems) ""
        (.exit usageStatus)
  | diff error => exact hError _ _
  | report error => exact hError _ _
  | contradiction | changeList _ | file _ | arithmetic _ =>
      exact Reply.isCarried_of_printed_eq_empty rfl

theorem isCarried_showReply (terminal : Console.Terminal) (asJson : Bool)
    (configuration : Configuration) :
    (showReply terminal asJson configuration).IsCarried
      (@showReply Limits.withEveryCode terminal asJson configuration) := by
  unfold showReply
  cases asJson with
  | true =>
      rw [if_pos rfl, if_pos rfl]
      exact Reply.isCarried_ofText _ _
  | false =>
      rw [if_neg Bool.false_ne_true, if_neg Bool.false_ne_true]
      exact Reply.isCarried_ofPrinted
        ((Console.isCarried_print terminal _).andThen (Console.isCarried_printTexts _)) _ _

theorem isCarried_validationReply (terminal : Console.Terminal)
    (problems : List ConfigurationProblem) :
    (validationReply terminal problems).IsCarried
      (@validationReply Limits.withEveryCode terminal problems) := by
  cases problems with
  | nil => exact Reply.isCarried_ofBlocks terminal _ _ _
  | cons problem problems => exact Reply.isCarried_ofBlocks terminal _ _ _

/-! ## Publishing -/

/-- Publishing on a channel, next to publishing where every character has a code: it
changes nothing if the channel ends it. -/
def Publication.IsCarried (publication full : Publication) (world : World) : Prop :=
  Limits.Carried full.printed (publication = full)
    (publication.error? = some .encoding ∧ publication.world = world)

namespace Publication

theorem isCarried_of_printed_eq_empty {publication : Publication} (h : publication.printed = "")
    (world : World) : publication.IsCarried publication world :=
  Limits.Carried.of_eq_empty h rfl

theorem isCarried_ofPrinted {printed full : Console.Printed} (h : printed.IsCarried full)
    (world : World) : (ofPrinted (.ok printed) world).IsCarried (ofPrinted (.ok full) world)
      world := by
  refine Limits.Carried.imp h (fun hSame => by rw [hSame]) fun hError => ⟨?_, rfl⟩
  rw [ofPrinted, hError]
  rfl

theorem isCarried_ofLines (lines : Except Uncaught (List String)) (world : World) :
    (ofLines lines world).IsCarried (@ofLines Limits.withEveryCode lines world) world := by
  cases lines with
  | error error => exact isCarried_of_printed_eq_empty rfl world
  | ok lines => exact isCarried_ofPrinted (Console.isCarried_printTexts _) world

theorem isCarried_ofBlocks (blocks : Except ArithmeticError (List Console.Block))
    (world : World) :
    (ofBlocks blocks world).IsCarried (@ofBlocks Limits.withEveryCode blocks world) world := by
  cases blocks with
  | error error => exact isCarried_of_printed_eq_empty rfl world
  | ok blocks => exact isCarried_ofPrinted (Console.isCarried_print world.terminal blocks) world

/-- What follows a step that changes nothing is carried if each of them is. -/
theorem IsCarried.andThen {publication full : Publication} {step next : World → Publication}
    {world : World} (h : publication.IsCarried full world) (hWorld : full.world = world)
    (hStep : (step world).IsCarried (next world) world) :
    (publication.andThen step).IsCarried (full.andThen next) world := by
  have hEnded (hPublication : publication.error? = some .encoding ∧ publication.world = world) :
      (publication.andThen step).error? = some .encoding ∧
        (publication.andThen step).world = world := by
    simpa only [Publication.andThen, hPublication.1] using hPublication
  cases hError : full.error? with
  | some error =>
      have hFull : full.andThen next = full := by
        simp only [Publication.andThen, hError]
      rw [hFull]
      refine Limits.Carried.imp h (fun hSame => ?_) hEnded
      rw [hSame, Publication.andThen, hError]
  | none =>
      have hFull (after : World → Publication) : full.andThen after =
          { after world with printed := full.printed ++ (after world).printed } := by
        simp only [Publication.andThen, hError, hWorld]
      rw [hFull]
      refine Limits.Carried.append h (fun hSame => ?_) hEnded
      rw [hSame, hFull]
      exact Limits.Carried.imp hStep (fun hRest => by rw [hRest]) id

end Publication

section Publishing

variable (world : World) (mark : String) (options : CheckOptions) (configuration : Configuration)
  (result : ChangeCoverage)

theorem world_publishReport (asJson : Bool) (target : LinkTarget) :
    (publishReport asJson target result world).world = world := by
  unfold publishReport
  split
  · exact Publication.world_ofPrinted _ world
  · exact Publication.world_ofPrinted _ world

theorem isCarried_publishReport (asJson : Bool) (target : LinkTarget) :
    (publishReport asJson target result world).IsCarried
      (@publishReport Limits.withEveryCode asJson target result world) world := by
  unfold publishReport
  split
  · exact Publication.isCarried_ofLines _ world
  · exact Publication.isCarried_ofBlocks _ world

theorem isCarried_publishPrinted :
    (publishPrinted world options configuration result).IsCarried
      (@publishPrinted Limits.withEveryCode world options configuration result) world := by
  refine (isCarried_publishReport world result _ _).andThen
    (@world_publishReport Limits.withEveryCode world result _ _) ?_
  split
  · exact Publication.isCarried_ofLines _ world
  · exact Publication.isCarried_of_printed_eq_empty rfl world

theorem world_publishPrinted :
    (publishPrinted world options configuration result).world = world := by
  unfold publishPrinted Publication.andThen
  split
  · exact world_publishReport world result _ _
  · dsimp only
    rw [world_publishReport]
    split
    · exact Publication.world_ofPrinted _ world
    · rfl

/-- Files do not hang on the output channel, so publishing is carried if its printing is. -/
theorem isCarried_publish :
    (publish world mark options configuration result).IsCarried
      (@publish Limits.withEveryCode world mark options configuration result) world := by
  rw [publish_eq, @publish_eq Limits.withEveryCode]
  exact (isCarried_publishPrinted world options configuration result).andThen
    (@world_publishPrinted Limits.withEveryCode world options configuration result)
    (Publication.isCarried_of_printed_eq_empty (onlyWrites_publishFiles _ _ _ _).printed world)

end Publishing

/-! ## Runs -/

/-- A run on a channel, next to the run where every character has a code.  They start
`git` in the same way or not at all and warn of the same.  If the channel has a code for
all that the other run prints, there is no difference; else it ends the run, which leaves
everything as it was. -/
structure ProgramRun.IsCarried (run full : ProgramRun) (world : World) : Prop extends
    Limits.Carried full.reply.printed (run = full)
      (run.reply.ending = .uncaught .encoding ∧ run.world = world) where
  start? : run.start? = full.start?
  warnings : run.warnings = full.warnings

/-- A run that does nothing but reply is carried if its reply is. -/
theorem ProgramRun.isCarried_of_reply {reply full : Reply} (h : reply.IsCarried full)
    (warnings : List String) (start? : Option GitStart) (world : World) :
    (ProgramRun.mk reply warnings start? world).IsCarried ⟨full, warnings, start?, world⟩ world :=
  ⟨Limits.Carried.imp h (fun hSame => by rw [hSame]) (⟨·, rfl⟩), rfl, rfl⟩

/-- What is found out does not hang on the output channel. -/
theorem examine_withEveryCode (world : World) (options : CheckOptions) :
    @examine Limits.withEveryCode world options = examine world options :=
  rfl

theorem isCarried_runCheck (world : World) (mark : String) (options : CheckOptions) :
    (runCheck world mark options).IsCarried
      (@runCheck Limits.withEveryCode world mark options) world := by
  have hExamine := examine_withEveryCode world options
  -- Both runs find out the same: they are stopped by the same or publish the same.
  cases hOutcome : (examine world options).outcome with
  | error stop =>
      rw [runCheck_eq_of_stop mark hOutcome,
        @runCheck_eq_of_stop Limits.withEveryCode _ mark _ _ hOutcome, hExamine]
      exact ProgramRun.isCarried_of_reply (stop.isCarried_reply world.terminal) _ _ world
  | ok outcome =>
      obtain ⟨configuration, result⟩ := outcome
      have hPublish := isCarried_publish world mark options configuration result
      rw [runCheck_of_publish hOutcome rfl,
        @runCheck_of_publish Limits.withEveryCode _ _ _ mark _ _ hOutcome rfl, hExamine]
      refine ⟨Limits.Carried.imp hPublish (fun hSame => ?_) fun hEnded => ?_, rfl, rfl⟩
      · rw [hSame]
      · exact ⟨by rw [hEnded.1], hEnded.2⟩

theorem isCarried_carryOut (world : World) (mark : String) (request : Request) :
    (carryOut world mark request).IsCarried
      (@carryOut Limits.withEveryCode world mark request) world := by
  have hConfiguration (directory : PathName) {reply full : Configuration → Reply}
      (h : ∀ configuration, (reply configuration).IsCarried (full configuration)) :
      (runOnConfiguration world directory reply).IsCarried
        (@runOnConfiguration Limits.withEveryCode world directory full) world := by
    have hLoad : @World.loadConfiguration Limits.withEveryCode world directory =
        world.loadConfiguration directory := rfl
    unfold runOnConfiguration
    rw [hLoad]
    refine ProgramRun.isCarried_of_reply ?_ _ _ world
    cases (world.loadConfiguration directory).outcome with
    | error error => exact Reply.isCarried_ofLoadError world.terminal error
    | ok configuration => exact h configuration
  cases request with
  | help command =>
      exact ProgramRun.isCarried_of_reply (Reply.isCarried_ofText _ _) _ _ world
  | version => exact ProgramRun.isCarried_of_reply (Reply.isCarried_ofText _ _) _ _ world
  | check options => exact isCarried_runCheck world mark options
  | showConfiguration directory asJson =>
      exact hConfiguration directory fun configuration =>
        isCarried_showReply world.terminal asJson configuration
  | validateConfiguration directory =>
      exact hConfiguration directory fun configuration =>
        isCarried_validationReply world.terminal (configuration.problems true)

/-- A run on any channel is the run where every character has a code, or the channel ends
it before it has written to a file. -/
theorem isCarried_run (world : World) (mark : String) (arguments : List String) :
    (run world mark arguments).IsCarried
      (@run Limits.withEveryCode world mark arguments) world := by
  unfold run
  cases readRequest world arguments with
  | ok request => exact isCarried_carryOut world mark request
  | error refusal =>
      refine ProgramRun.isCarried_of_reply ?_ _ _ world
      exact Reply.isCarried_of_printed_eq_empty refusal.printed_reply

end CommandLine

end Channel

end PatchCoverage
