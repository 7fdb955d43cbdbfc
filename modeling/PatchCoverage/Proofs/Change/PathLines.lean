import PatchCoverage.Proofs.Change.Sources
import PatchCoverage.Proofs.Publish.CommandLines

namespace PatchCoverage

/-!
# One path a line

A text is cut at ten line boundaries, one of them two characters long, and what is
blank between two boundaries is no path.  For the paths it makes no difference to cut
at every boundary character by itself: a carriage return and a line feed that are torn
apart leave an empty line between them, which is no path either (`listedPaths_eq`).
So the paths of a text that goes on after a boundary are those before it and those
after it (`listedPaths_append`).

From that law follows what a list of printed paths is read as, and that blank lines can
stand anywhere between complete lines.  The main statement is `paths_one_per_line`.
-/

/-- A text without any line boundary. -/
def IsSingleLine (text : String) : Prop :=
  ∀ c ∈ text.toList, isLineBoundary c = false

instance : DecidablePred IsSingleLine :=
  fun text => List.decidableBAll (fun c => isLineBoundary c = false) text.toList

/-- A text that can stand for a path on a line of its own. -/
def IsPathLine (text : String) : Prop :=
  isBlankText text = false ∧ IsSingleLine text

instance : DecidablePred IsPathLine :=
  fun text => inferInstanceAs (Decidable (isBlankText text = false ∧ IsSingleLine text))

/-- A text of complete lines: it is empty or ends with a line boundary. -/
def IsLines (text : String) : Prop :=
  ∀ c ∈ text.toList.getLast?, isLineBoundary c = true

instance : DecidablePred IsLines :=
  fun text => Option.decidableForallMem text.toList.getLast?

/-- Texts with a line feed after each. -/
def printedLines (lines : List String) : String :=
  String.join (lines.map (· ++ "\n"))

/-! ## Pieces between boundaries -/

/-- Whether a piece of a text is more than blanks. -/
def isInked (piece : List Char) : Bool :=
  !piece.all isBlank

/-- A boundary of two characters, cut twice, leaves one more piece, an empty one. -/
theorem filter_isInked_splitLinesFrom (line characters : List Char) :
    (splitLinesFrom line characters).filter isInked =
      (characters.splitOnPPrepend isLineBoundary line).filter isInked := by
  fun_induction splitLinesFrom line characters with
  | case1 line hEmpty =>
      obtain rfl := List.isEmpty_iff.mp hEmpty
      rfl
  | case2 line hSome => rfl
  | case3 line rest ih =>
      have hPair : ('\r' :: '\n' :: rest).splitOnPPrepend isLineBoundary line =
          line.reverse :: [] :: rest.splitOnPPrepend isLineBoundary [] := rfl
      have hEmpty : isInked [] = false := rfl
      rw [hPair, List.filter_cons, List.filter_cons (x := line.reverse), ih, List.filter_cons,
        hEmpty]
      simp
  | case4 line c rest hPair hBoundary ih =>
      rw [List.splitOnPPrepend_cons_eq_if, if_pos hBoundary, List.splitOnP_eq_splitOnPPrepend,
        List.filter_cons, List.filter_cons, ih]
  | case5 line c rest hPair hBoundary ih =>
      rw [List.splitOnPPrepend_cons_eq_if, if_neg hBoundary, ih]

/-- The paths of a text are its pieces between boundary characters that are not
blank. -/
theorem listedPaths_eq (text : String) :
    listedPaths text =
      ((text.toList.splitOnP isLineBoundary).filter isInked).map String.ofList := by
  have hInked : (fun line => !isBlankText line) ∘ String.ofList = isInked := by
    funext piece
    simp [isBlankText, isInked]
  rw [listedPaths, splitLines_unifyNewlines, splitLines, List.filter_map, hInked,
    filter_isInked_splitLinesFrom, List.splitOnP_eq_splitOnPPrepend]

theorem isPathLine_of_mem_listedPaths {text path : String} (h : path ∈ listedPaths text) :
    IsPathLine path := by
  obtain ⟨hLine, hInked⟩ := List.mem_filter.mp h
  rw [splitLines_unifyNewlines] at hLine
  obtain ⟨piece, hPiece, rfl⟩ := List.mem_map.mp hLine
  refine ⟨by simpa using hInked, fun c hC => ?_⟩
  rw [String.toList_ofList] at hC
  exact not_isLineBoundary_of_mem_splitLinesFrom (by simp) hPiece hC

/-! ## Texts one after the other -/

/-- A text that ends with a boundary and a text that goes on have the paths of both. -/
theorem listedPaths_append {front : String} (hFront : IsLines front) (back : String) :
    listedPaths (front ++ back) = listedPaths front ++ listedPaths back := by
  simp only [listedPaths_eq, String.toList_append, ← List.map_append]
  congr 1
  rcases List.eq_nil_or_concat' front.toList with hEmpty | ⟨start, boundary, hStart⟩
  · rw [hEmpty]
    rfl
  · have hBoundary : isLineBoundary boundary = true := hFront boundary (by simp [hStart])
    have hNone : ([[]] : List (List Char)).filter isInked = [] := rfl
    rw [hStart, List.append_assoc, List.singleton_append, List.splitOnP_append_cons _ _ hBoundary,
      List.splitOnP_append_cons _ _ hBoundary, List.filter_append, List.filter_append,
      List.splitOnP_nil, hNone, List.append_nil]

/-- The pieces of a blank text are blank. -/
theorem filter_isInked_of_all_isBlank {line characters : List Char}
    (hLine : line.all isBlank = true) (h : characters.all isBlank = true) :
    (characters.splitOnPPrepend isLineBoundary line).filter isInked = [] := by
  have hPiece {line : List Char} (hBlank : line.all isBlank = true) :
      isInked line.reverse = false := by
    rw [isInked, List.all_reverse, hBlank]
    rfl
  induction characters generalizing line with
  | nil => rw [List.splitOnPPrepend_nil, List.filter_singleton, hPiece hLine, cond_false]
  | cons c rest ih =>
      obtain ⟨hFirst, hRest⟩ := Bool.and_eq_true_iff.mp h
      rw [List.splitOnPPrepend_cons_eq_if]
      split
      · rw [List.splitOnP_eq_splitOnPPrepend, List.filter_cons_of_neg (by simp [hPiece hLine]),
          ih rfl hRest]
      · exact ih (Bool.and_eq_true_iff.mpr ⟨hFirst, hLine⟩) hRest

/-- A blank text has no paths. -/
theorem listedPaths_of_isBlankText {text : String} (h : isBlankText text = true) :
    listedPaths text = [] := by
  rw [listedPaths_eq, List.splitOnP_eq_splitOnPPrepend, filter_isInked_of_all_isBlank rfl h,
    List.map_nil]

theorem isLines_append_feed (text : String) : IsLines (text ++ "\n") := by
  intro c hLast
  rw [String.toList_append] at hLast
  have hFeed : c = '\n' := by simpa using hLast.symm
  rw [hFeed]
  decide

/-- A path with a line feed after it is read as that path. -/
theorem listedPaths_line {path : String} (h : IsPathLine path) :
    listedPaths (path ++ "\n") = [path] := by
  obtain ⟨hInked, hSingle⟩ := h
  have hPiece : isInked path.toList = true := by simpa [isInked, isBlankText] using hInked
  have hNone : isInked [] = false := rfl
  have hFeed : (path ++ "\n").toList = path.toList ++ '\n' :: [] := by simp
  rw [listedPaths_eq, hFeed, List.splitOnP_append_cons _ _ (by decide),
    List.splitOnP_eq_singleton hSingle, List.splitOnP_nil]
  simp [hPiece, hNone]

/-- Paths with a line feed after each are read as these paths. -/
theorem listedPaths_printedLines {paths : List String} (h : ∀ path ∈ paths, IsPathLine path) :
    listedPaths (printedLines paths) = paths := by
  induction paths with
  | nil => rfl
  | cons path paths ih =>
      have hRest := ih fun other hOther => h other (List.mem_cons_of_mem _ hOther)
      have hPrinted : printedLines (path :: paths) = (path ++ "\n") ++ printedLines paths :=
        String.join_cons
      rw [hPrinted, listedPaths_append (isLines_append_feed path),
        listedPaths_line (h path List.mem_cons_self), hRest, List.singleton_append]

/-- Blank lines between complete lines are no paths. -/
theorem listedPaths_insert_blank {front blank : String} (hFront : IsLines front)
    (hBlank : IsLines blank) (hNone : isBlankText blank = true) (back : String) :
    listedPaths (front ++ blank ++ back) = listedPaths (front ++ back) := by
  rw [String.append_assoc, listedPaths_append hFront, listedPaths_append hBlank,
    listedPaths_of_isBlankText hNone, List.nil_append, listedPaths_append hFront]

/-! ## The two sources -/

/-- Trimming leaves a path a path. -/
theorem IsPathLine.trimBlank {path : String} (h : IsPathLine path) :
    IsPathLine (trimBlank path) := by
  obtain ⟨hInked, hSingle⟩ := h
  refine ⟨?_, fun c hC => hSingle c (toList_trimBlank_subset path hC)⟩
  rw [isBlankText, PatchCoverage.trimBlank, String.toList_ofList]
  cases hTrimmed : trimBoth isBlank path.toList with
  | nil =>
      have hBlank : isBlankText path = true := trimBoth_eq_nil_iff.mp hTrimmed
      rw [hInked] at hBlank
      cases hBlank
  | cons c rest =>
      -- The first character that is left is not blank.
      have hFirst : isBlank c = false := head?_trimBoth (by rw [hTrimmed, List.head?_cons])
      rw [List.all_cons, hFirst, Bool.false_and]

theorem isPathLine_of_mem_pathsOfText {text path : String} (h : path ∈ pathsOfText text) :
    IsPathLine path := by
  rw [pathsOfText_eq_map] at h
  obtain ⟨listed, hListed, rfl⟩ := List.mem_map.mp h
  exact (isPathLine_of_mem_listedPaths hListed).trimBlank

/-- A world in which `git` prints a text and succeeds. -/
def World.printing (world : World) (text : String) : World :=
  { world with git := some ⟨encodeUtf8 text, 0⟩ }

/-- With refs that may be used and in a directory: paths that are printed one a line are
listed as they are, and are the given paths but for the blanks around them.  Whatever is
printed or given, each path is on one line and more than blanks, and blank lines between
complete lines make no difference. -/
theorem paths_one_per_line {world : World} {directory : PathName} {place : FileTree.Place}
    {entries : List (String × FileTree)} {base head : String}
    (hBase : RefProblem.of? base = none) (hHead : RefProblem.of? head = none)
    (hPlace : (world.locate directory >>= world.files.find) = .ok place)
    (hDirectory : place.node = .directory entries) :
    let listed (text : String) := ((world.printing text).gitChanges directory base head).outcome
    (∀ paths, (∀ path ∈ paths, IsPathLine path) →
        listed (printedLines paths) = .ok paths ∧
          pathsOfText (printedLines paths) = paths.map trimBlank) ∧
      (∀ text,
        (∃ paths, listed text = .ok paths ∧ ∀ path ∈ paths, IsPathLine path) ∧
          ∀ path ∈ pathsOfText text, IsPathLine path) ∧
      ∀ front blank back, IsLines front → IsLines blank → isBlankText blank = true →
        listed (front ++ blank ++ back) = listed (front ++ back) ∧
          pathsOfText (front ++ blank ++ back) = pathsOfText (front ++ back) := by
  intro listed
  have hListed (text : String) : listed text = .ok (listedPaths text) :=
    @World.outcome_gitChanges_of_printed (world.printing text) _ _ _ _ _ _ hBase hHead hPlace
      hDirectory rfl
  refine ⟨?_, ?_, ?_⟩
  · intro paths hPaths
    have hPrinted := listedPaths_printedLines hPaths
    exact ⟨by rw [hListed, hPrinted], by rw [pathsOfText_eq_map, hPrinted]⟩
  · intro text
    exact ⟨⟨listedPaths text, hListed text, fun _ => isPathLine_of_mem_listedPaths⟩,
      fun _ => isPathLine_of_mem_pathsOfText⟩
  · intro front blank back hFront hBlank hNone
    have hSame := listedPaths_insert_blank hFront hBlank hNone back
    exact ⟨by rw [hListed, hListed, hSame], by rw [pathsOfText_eq_map, pathsOfText_eq_map, hSame]⟩

/-- A path with a blank in front is listed twice, as it is printed twice, and a carriage
return and a line feed may have blank lines between them. -/
theorem paths_one_per_line_with_blanks :
    let listed (text : String) :=
      (((worldOfPrinted "").printing text).gitChanges (PathName.ofText "/") "main" "topic").outcome
    (∀ path ∈ [" s/p/A.java", "B.java", " s/p/A.java"], IsPathLine path) ∧
      listed (printedLines [" s/p/A.java", "B.java", " s/p/A.java"]) =
        .ok [" s/p/A.java", "B.java", " s/p/A.java"] ∧
      pathsOfText (printedLines [" s/p/A.java", "B.java", " s/p/A.java"]) =
        ["s/p/A.java", "B.java", "s/p/A.java"] ∧
      IsLines "A.java\r" ∧ IsLines "\n \x85" ∧ isBlankText "\n \x85" = true ∧
      listed ("A.java\r" ++ "\n \x85" ++ "\nB.java") = listed ("A.java\r" ++ "\nB.java") := by
  intro listed
  have hPlace : ((worldOfPrinted "").locate (PathName.ofText "/") >>=
      (worldOfPrinted "").files.find) = .ok ⟨[], (worldOfPrinted "").files, []⟩ := rfl
  obtain ⟨hPrinted, -, hInserted⟩ :=
    paths_one_per_line (by decide : RefProblem.of? "main" = none)
      (by decide : RefProblem.of? "topic" = none) hPlace rfl
  have hPaths : ∀ path ∈ [" s/p/A.java", "B.java", " s/p/A.java"], IsPathLine path := by
    decide +kernel
  obtain ⟨hListed, hGiven⟩ := hPrinted _ hPaths
  have hFront : IsLines "A.java\r" := by decide
  have hBlank : IsLines "\n \x85" := by decide
  have hNone : isBlankText "\n \x85" = true := by decide
  have hTrimmed : [" s/p/A.java", "B.java", " s/p/A.java"].map trimBlank =
      ["s/p/A.java", "B.java", "s/p/A.java"] := by
    decide +kernel
  exact ⟨hPaths, hListed, hGiven.trans hTrimmed, hFront, hBlank, hNone,
    (hInserted _ _ _ hFront hBlank hNone).1⟩

end PatchCoverage
