import Mathlib.Data.List.Basic
import PatchCoverage.Proofs.Failure
import PatchCoverage.World.FileTree

namespace PatchCoverage.FileTree

/-!
# What adding to a file changes

A file is known by the path that leads to it without `..`.  `viewAt?` is what a
tree shows at such a path: nothing, a directory, or a file with its octets; it is
the view in which a change of the tree is described.

The main statement is `append_effect`: adding octets to a file changes the view at
one path and at no other, and afterwards the same parts lead to the file with its
new content.
-/

/-! ## Paths without `..` -/

/-- What stands at a path, if anything. -/
def nodeAt? : FileTree → List String → Option FileTree
  | node, [] => some node
  | file _, _ :: _ => none
  | directory entries, part :: rest => (entries.lookup part).bind fun node => nodeAt? node rest

/-- The entry of a node, if it is a directory and has one. -/
def child? (part : String) : FileTree → Option FileTree
  | file _ => none
  | directory entries => entries.lookup part

/-- The octets of a node, if it is a file. -/
def content? : FileTree → Option (List UInt8)
  | file content => some content
  | directory _ => none

/-- What a tree shows at a path: the octets of a file, `some none` for a directory,
`none` for nothing. -/
def viewAt? (tree : FileTree) (path : List String) : Option (Option (List UInt8)) :=
  (tree.nodeAt? path).map content?

@[simp]
theorem nodeAt?_nil (tree : FileTree) : tree.nodeAt? [] = some tree := by
  cases tree <;> rfl

theorem nodeAt?_cons (tree : FileTree) (part : String) (rest : List String) :
    tree.nodeAt? (part :: rest) = (tree.child? part).bind fun node => node.nodeAt? rest := by
  cases tree <;> rfl

theorem nodeAt?_concat (tree : FileTree) (path : List String) (part : String) :
    tree.nodeAt? (path ++ [part]) = (tree.nodeAt? path).bind (child? part) := by
  induction path generalizing tree with
  | nil => simp [nodeAt?_cons]
  | cons first path ih =>
      rw [List.cons_append, nodeAt?_cons, nodeAt?_cons, Option.bind_assoc]
      exact congrArg _ (funext fun node => ih node)

theorem viewAt?_eq_directory_iff {tree : FileTree} {path : List String} :
    tree.viewAt? path = some none ↔ ∃ entries, tree.nodeAt? path = some (directory entries) := by
  unfold viewAt?
  cases tree.nodeAt? path with
  | none => simp
  | some node => cases node <;> simp [content?]

theorem viewAt?_eq_file_iff {tree : FileTree} {path : List String} {content : List UInt8} :
    tree.viewAt? path = some (some content) ↔ tree.nodeAt? path = some (file content) := by
  unfold viewAt?
  cases tree.nodeAt? path with
  | none => simp
  | some node => cases node <;> simp [content?]

/-! ## Putting a file -/

theorem lookup_cons_eq_ite (name other : String) (node : FileTree)
    (entries : List (String × FileTree)) :
    ((name, node) :: entries).lookup other =
      if other = name then some node else entries.lookup other := by
  by_cases h : other = name
  · rw [if_pos h, List.lookup_cons, beq_iff_eq.mpr h]
  · rw [if_neg h, List.lookup_cons, beq_eq_false_iff_ne.mpr h]

theorem lookup_setEntry (name other : String) (node : FileTree)
    (entries : List (String × FileTree)) :
    (setEntry name node entries).lookup other =
      if other = name then some node else entries.lookup other := by
  induction entries with
  | nil => rw [setEntry, lookup_cons_eq_ite]
  | cons entry entries ih =>
      obtain ⟨first, old⟩ := entry
      by_cases hFirst : first = name
      · rw [setEntry, if_pos hFirst, lookup_cons_eq_ite, lookup_cons_eq_ite, hFirst]
        split <;> rfl
      · rw [setEntry, if_neg hFirst, lookup_cons_eq_ite, lookup_cons_eq_ite, ih]
        by_cases hOther : other = first
        · rw [if_pos hOther, if_pos hOther, if_neg (hOther ▸ hFirst)]
        · rw [if_neg hOther, if_neg hOther]

/-- A file can be put at a path: all but its last part lead through directories that
exist, and no directory stands at its end. -/
def Accepts : FileTree → List String → Prop
  | node, [] => ∃ content, node = file content
  | node, part :: rest =>
    (∃ entries, node = directory entries) ∧
      match node.child? part with
      | some next => next.Accepts rest
      | none => rest = []

/-- A file that is put at a path is seen there, and all else as before. -/
theorem viewAt?_put {tree : FileTree} {target : List String} (content : List UInt8)
    (h : tree.Accepts target) (path : List String) :
    (put (file content) tree target).viewAt? path =
      if path = target then some (some content) else tree.viewAt? path := by
  induction target generalizing tree path with
  | nil =>
      obtain ⟨old, rfl⟩ := h
      cases path with
      | nil => rfl
      | cons part rest => rfl
  | cons part rest ih =>
      obtain ⟨⟨entries, rfl⟩, hRest⟩ := h
      cases path with
      | nil => rfl
      | cons first after =>
          simp only [put, viewAt?, nodeAt?_cons, child?, lookup_setEntry]
          by_cases hFirst : first = part
          · subst hFirst
            simp only [child?] at hRest
            cases hLookup : entries.lookup first with
            | some next =>
                rw [hLookup] at hRest
                simpa [viewAt?] using ih hRest after
            | none =>
                -- Nothing stood here, so the file is the only thing that can be reached.
                rw [hLookup] at hRest
                subst hRest
                cases after with
                | nil => simp [put, content?]
                | cons second others => simp [put, nodeAt?_cons, child?]
          · simp [hFirst]

theorem Accepts.viewAt?_ne_directory {tree : FileTree} {target : List String}
    (h : tree.Accepts target) : tree.viewAt? target ≠ some none := by
  induction target generalizing tree with
  | nil =>
      obtain ⟨content, rfl⟩ := h
      simp [viewAt?, content?]
  | cons part rest ih =>
      obtain ⟨-, hRest⟩ := h
      rw [viewAt?, nodeAt?_cons]
      cases hEntry : tree.child? part with
      | none => simp
      | some next =>
          rw [hEntry] at hRest
          exact ih hRest

theorem accepts_of_file {tree : FileTree} {path : List String} {content : List UInt8}
    (h : tree.nodeAt? path = some (file content)) : tree.Accepts path := by
  induction path generalizing tree with
  | nil => exact ⟨content, Option.some.inj (tree.nodeAt?_nil ▸ h)⟩
  | cons part rest ih =>
      rw [nodeAt?_cons] at h
      obtain ⟨next, hEntry, hNext⟩ := Option.bind_eq_some_iff.mp h
      refine ⟨?_, ?_⟩
      · cases tree with
        | file other => cases hEntry
        | directory entries => exact ⟨entries, rfl⟩
      · rw [hEntry]
        exact ih hNext

theorem accepts_of_directory {tree : FileTree} {path : List String}
    {entries : List (String × FileTree)} {name : String}
    (h : tree.nodeAt? path = some (directory entries)) (hMissing : entries.lookup name = none) :
    tree.Accepts (path ++ [name]) := by
  induction path generalizing tree with
  | nil =>
      obtain rfl : tree = directory entries := Option.some.inj (tree.nodeAt?_nil ▸ h)
      refine ⟨⟨entries, rfl⟩, ?_⟩
      rw [child?, hMissing]
  | cons part rest ih =>
      rw [nodeAt?_cons] at h
      obtain ⟨next, hEntry, hNext⟩ := Option.bind_eq_some_iff.mp h
      refine ⟨?_, ?_⟩
      · cases tree with
        | file other => cases hEntry
        | directory entries => exact ⟨entries, rfl⟩
      · rw [hEntry]
        exact ih hNext

/-! ## Following parts -/

/-- The nodes above a place are those on the way to it. -/
def IsAbove (tree : FileTree) : List String → List FileTree → Prop
  | [], [] => True
  | _ :: trail, node :: above =>
    tree.nodeAt? trail.reverse = some node ∧ tree.IsAbove trail above
  | _, _ => False

/-- A place is where its trail leads in a tree. -/
structure Place.IsIn (place : Place) (tree : FileTree) : Prop where
  node : tree.nodeAt? place.trail.reverse = some place.node
  above : tree.IsAbove place.trail place.above

/-- The place above another; the top is above itself. -/
def Place.parent (place : Place) : Place :=
  match place.above with
  | [] => place
  | parent :: above => ⟨place.trail.tail, parent, above⟩

/-- The place that one part leads to. -/
def Place.step (place : Place) (part : String) : Except FileProblem Place :=
  match place.node with
  | file _ => .error .notDirectory
  | directory entries =>
    if partLimit < part.utf8ByteSize then .error .nameTooLong
    else if part = ".." then .ok place.parent
    else
      match entries.lookup part with
      | none => .error .missing
      | some node => .ok ⟨part :: place.trail, node, place.node :: place.above⟩

theorem walk_cons (place : Place) (part : String) (rest : List String) :
    walk place (part :: rest) = place.step part >>= fun next => walk next rest := by
  obtain ⟨trail, node, above⟩ := place
  cases node with
  | file content => rfl
  | directory entries =>
      simp only [walk, Place.step]
      split
      · rfl
      · split
        · cases above <;> rfl
        · cases entries.lookup part <;> rfl

theorem walk_append (place : Place) (parts rest : List String) :
    walk place (parts ++ rest) = walk place parts >>= fun next => walk next rest := by
  induction parts generalizing place with
  | nil => rfl
  | cons part parts ih =>
      rw [List.cons_append, walk_cons, walk_cons, bind_assoc]
      exact congrArg _ (funext fun next => ih next)

section Walk

variable {tree after : FileTree} {place next : Place} {part : String} {parts : List String}

theorem isIn_top (tree : FileTree) : Place.IsIn ⟨[], tree, []⟩ tree :=
  ⟨tree.nodeAt?_nil, trivial⟩

theorem Place.IsIn.parent (hPlace : place.IsIn tree) :
    place.parent.IsIn tree ∧ place.parent.trail = place.trail.tail := by
  obtain ⟨trail, node, above⟩ := place
  obtain ⟨hNode, hAbove⟩ := hPlace
  cases trail with
  | nil =>
      cases above with
      | nil => exact ⟨⟨hNode, trivial⟩, rfl⟩
      | cons parent above => exact hAbove.elim
  | cons first trail =>
      cases above with
      | nil => exact hAbove.elim
      | cons parent above => exact ⟨⟨hAbove.1, hAbove.2⟩, rfl⟩

theorem Place.IsIn.step (hPlace : place.IsIn tree) (h : place.step part = .ok next) :
    next.IsIn tree := by
  cases hNode : place.node with
  | file content => simp [Place.step, hNode] at h
  | directory entries =>
      simp only [Place.step, hNode] at h
      split at h
      · cases h
      · split at h
        · obtain rfl := Except.ok.inj h
          exact hPlace.parent.1
        · cases hLookup : entries.lookup part with
          | none => simp [hLookup] at h
          | some child =>
              rw [hLookup] at h
              obtain rfl := Except.ok.inj h
              refine ⟨?_, hNode ▸ hPlace.node, hPlace.above⟩
              rw [List.reverse_cons, nodeAt?_concat, hPlace.node, hNode]
              exact hLookup

theorem Place.IsIn.walk (hPlace : place.IsIn tree) (h : walk place parts = .ok next) :
    next.IsIn tree := by
  induction parts generalizing place with
  | nil =>
      obtain rfl := Except.ok.inj h
      exact hPlace
  | cons part parts ih =>
      rw [walk_cons] at h
      obtain ⟨middle, hStep, hWalk⟩ := bind_eq_ok_iff.mp h
      exact ih (hPlace.step hStep) hWalk

theorem isIn_of_find (h : tree.find parts = .ok place) : place.IsIn tree :=
  (isIn_top tree).walk h

/-- A tree that has what another has: its directories are directories, and where
something stands something stands. -/
structure Extends (after tree : FileTree) : Prop where
  directories : ∀ path, tree.viewAt? path = some none → after.viewAt? path = some none
  present : ∀ path, (tree.viewAt? path).isSome → (after.viewAt? path).isSome

/-- A step that can be made can be made in a tree that has more. -/
theorem Extends.step {place' : Place} (hMore : after.Extends tree) (hPlace : place.IsIn tree)
    (hPlace' : place'.IsIn after) (hTrail : place'.trail = place.trail)
    (h : place.step part = .ok next) :
    ∃ next', place'.step part = .ok next' ∧ next'.trail = next.trail := by
  cases hNode : place.node with
  | file content => simp [Place.step, hNode] at h
  | directory entries =>
      have hShown : after.viewAt? place.trail.reverse = some none :=
        hMore.directories _ (viewAt?_eq_directory_iff.mpr ⟨entries, hNode ▸ hPlace.node⟩)
      obtain ⟨entries', hEntries'⟩ := viewAt?_eq_directory_iff.mp hShown
      have hNode' : place'.node = directory entries' :=
        Option.some.inj ((hTrail ▸ hPlace'.node).symm.trans hEntries')
      simp only [Place.step, hNode, hNode'] at h ⊢
      split at h
      · cases h
      · next hShort =>
        rw [if_neg hShort]
        split at h
        · next hParent =>
          obtain rfl := Except.ok.inj h
          refine ⟨place'.parent, if_pos hParent, ?_⟩
          rw [hPlace'.parent.2, hPlace.parent.2, hTrail]
        · next hDown =>
          rw [if_neg hDown]
          cases hLookup : entries.lookup part with
          | none => simp [hLookup] at h
          | some child =>
              rw [hLookup] at h
              obtain rfl := Except.ok.inj h
              have hThere : (after.viewAt? (place.trail.reverse ++ [part])).isSome := by
                apply hMore.present
                rw [viewAt?, nodeAt?_concat, hPlace.node, hNode, Option.bind_some, child?, hLookup]
                rfl
              rw [viewAt?, nodeAt?_concat, hEntries', Option.bind_some, child?,
                Option.isSome_map] at hThere
              obtain ⟨child', hChild'⟩ := Option.isSome_iff_exists.mp hThere
              rw [hChild']
              exact ⟨_, rfl, congrArg (part :: ·) hTrail⟩

/-- Parts that can be followed lead to the same path in a tree that has more. -/
theorem Extends.walk {place' : Place} (hMore : after.Extends tree) (hPlace : place.IsIn tree)
    (hPlace' : place'.IsIn after) (hTrail : place'.trail = place.trail)
    (h : walk place parts = .ok next) :
    ∃ next', FileTree.walk place' parts = .ok next' ∧ next'.trail = next.trail := by
  induction parts generalizing place place' with
  | nil =>
      obtain rfl := Except.ok.inj h
      exact ⟨place', rfl, hTrail⟩
  | cons part parts ih =>
      rw [walk_cons] at h
      obtain ⟨middle, hStep, hWalk⟩ := bind_eq_ok_iff.mp h
      obtain ⟨middle', hStep', hSame⟩ := hMore.step hPlace hPlace' hTrail hStep
      obtain ⟨next', hWalk', hEnd⟩ :=
        ih (hPlace.step hStep) (hPlace'.step hStep') hSame hWalk
      refine ⟨next', ?_, hEnd⟩
      rw [walk_cons, hStep']
      exact hWalk'

theorem Extends.find (hMore : after.Extends tree) (h : tree.find parts = .ok place) :
    ∃ place', after.find parts = .ok place' ∧ place'.trail = place.trail :=
  hMore.walk (isIn_top tree) (isIn_top after) rfl h

end Walk

theorem find_concat {tree : FileTree} {parts : List String} {place : Place} (name : String)
    (h : tree.find parts = .ok place) : tree.find (parts ++ [name]) = place.step name := by
  rw [find, walk_append, ← find, h]
  change walk place [name] = _
  rw [walk_cons]
  cases place.step name <;> rfl

/-! ## Adding to a file -/

section Append

variable {tree after : FileTree} {parts target : List String} {content octets : List UInt8}

/-- What a file that is added to is: one that parts lead to, or one that is missing
in a directory. -/
inductive IsTarget (tree : FileTree) (parts : List String) :
    List String → List UInt8 → Prop
  | present {place : Place} {content : List UInt8} (hFind : tree.find parts = .ok place)
      (hNode : place.node = file content) : IsTarget tree parts place.trail.reverse content
  | missing {place : Place} {entries : List (String × FileTree)} {name : String}
      (hParts : parts = parts.dropLast ++ [name]) (hFind : tree.find parts.dropLast = .ok place)
      (hNode : place.node = directory entries) (hMissing : entries.lookup name = none)
      (hName : name ≠ "..") (hShort : name.utf8ByteSize ≤ partLimit) :
      IsTarget tree parts (place.trail.reverse ++ [name]) []

theorem isTarget_of_appendTarget (h : tree.appendTarget parts = .ok (target, content)) :
    tree.IsTarget parts target content := by
  unfold appendTarget at h
  split at h
  · next trail old above hFind =>
    obtain ⟨rfl, rfl⟩ := Prod.mk.inj (Except.ok.inj h)
    exact .present hFind rfl
  · cases h
  · next hMissing =>
    cases hLast : parts.getLast? with
    | none => simp [hLast] at h
    | some name =>
        have hParts : parts = parts.dropLast ++ [name] :=
          (List.dropLast_append_getLast? name hLast).symm
        simp only [hLast] at h
        split at h
        · next trail entries above hFind =>
          split at h
          · cases h
          · next hName =>
            obtain ⟨rfl, rfl⟩ := Prod.mk.inj (Except.ok.inj h)
            -- The last part is what is missing, since the parts before it were followed.
            rw [hParts, find_concat name hFind] at hMissing
            simp only [Place.step, if_neg hName] at hMissing
            have hShort : name.utf8ByteSize ≤ partLimit := by
              by_contra hLong
              rw [if_pos (Nat.lt_of_not_le hLong)] at hMissing
              cases hMissing
            rw [if_neg (Nat.not_lt.mpr hShort)] at hMissing
            have hEntry : entries.lookup name = none := by
              cases hLookup : entries.lookup name with
              | none => rfl
              | some node =>
                  rw [hLookup] at hMissing
                  cases hMissing
            rw [List.reverse_cons]
            exact .missing hParts hFind rfl hEntry hName hShort
        · cases h
        · cases h
  · cases h

theorem IsTarget.accepts (h : tree.IsTarget parts target content) : tree.Accepts target := by
  cases h with
  | present hFind hNode => exact accepts_of_file (hNode ▸ (isIn_of_find hFind).node)
  | missing _ hFind hNode hMissing =>
      exact accepts_of_directory (hNode ▸ (isIn_of_find hFind).node) hMissing

/-- The octets so far are those of the file; a missing file has none. -/
theorem IsTarget.viewAt? (h : tree.IsTarget parts target content) :
    tree.viewAt? target = some (some content) ∨ tree.viewAt? target = none ∧ content = [] := by
  cases h with
  | present hFind hNode =>
      exact .inl (viewAt?_eq_file_iff.mpr (hNode ▸ (isIn_of_find hFind).node))
  | missing _ hFind hNode hMissing =>
      refine .inr ⟨?_, rfl⟩
      rw [FileTree.viewAt?, nodeAt?_concat, (isIn_of_find hFind).node, hNode, Option.bind_some,
        child?, hMissing, Option.map_none]

/-- A file that can be added to can be read, or it is missing and has no octets. -/
theorem IsTarget.read (h : tree.IsTarget parts target content) :
    tree.read parts = .ok content ∨ tree.read parts = .error .missing ∧ content = [] := by
  cases h with
  | @present place content hFind hNode =>
      refine .inl ?_
      rw [FileTree.read, hFind]
      simp only [bind, Except.bind, hNode]
  | @missing place entries name hParts hFind hNode hMissing hName hShort =>
      have hStep : place.step name = .error .missing := by
        simp only [Place.step, hNode, if_neg (Nat.not_lt.mpr hShort), if_neg hName, hMissing]
      refine .inr ⟨?_, rfl⟩
      rw [FileTree.read, hParts, find_concat name hFind, hStep]
      rfl

/-- In a tree that has more, the same parts lead to the file once it is there. -/
theorem IsTarget.find_of_extends (h : tree.IsTarget parts target content)
    (hMore : after.Extends tree) {now : List UInt8}
    (hNow : after.viewAt? target = some (some now)) :
    ∃ place, after.find parts = .ok place ∧ place.trail.reverse = target ∧
      place.node = file now := by
  have hThere := viewAt?_eq_file_iff.mp hNow
  cases h with
  | present hFind hNode =>
      obtain ⟨place', hFind', hTrail⟩ := hMore.find hFind
      refine ⟨place', hFind', congrArg _ hTrail, ?_⟩
      have hNode' := (isIn_of_find hFind').node
      rw [hTrail, hThere] at hNode'
      exact (Option.some.inj hNode').symm
  | @missing place entries name hParts hFind hNode hMissing hName hShort =>
      obtain ⟨place', hFind', hTrail⟩ := hMore.find hFind
      have hShown : after.viewAt? place.trail.reverse = some none :=
        hMore.directories _ (viewAt?_eq_directory_iff.mpr
          ⟨entries, hNode ▸ (isIn_of_find hFind).node⟩)
      obtain ⟨entries', hEntries'⟩ := viewAt?_eq_directory_iff.mp hShown
      have hNode' : place'.node = directory entries' :=
        Option.some.inj ((hTrail ▸ (isIn_of_find hFind').node).symm.trans hEntries')
      rw [nodeAt?_concat, hEntries', Option.bind_some] at hThere
      have hStep : place'.step name =
          .ok ⟨name :: place'.trail, file now, place'.node :: place'.above⟩ := by
        simp only [Place.step, hNode', if_neg (Nat.not_lt.mpr hShort), if_neg hName,
          show entries'.lookup name = some (file now) from hThere]
      refine ⟨⟨name :: place'.trail, file now, place'.node :: place'.above⟩, ?_, ?_, rfl⟩
      · rw [hParts, find_concat name hFind', hStep]
      · rw [List.reverse_cons, hTrail]

theorem extends_of_viewAt? (hTarget : tree.viewAt? target ≠ some none)
    (hView : ∀ path, after.viewAt? path =
      if path = target then some (some octets) else tree.viewAt? path) :
    after.Extends tree := by
  constructor
  · intro path hDirectory
    have hOther : path ≠ target := by
      rintro rfl
      exact hTarget hDirectory
    rw [hView, if_neg hOther, hDirectory]
  · intro path hPresent
    rw [hView]
    split
    · rfl
    · exact hPresent

/-- Octets that are put into a file are there afterwards, whatever parts led to it; nothing
else changes. -/
theorem IsTarget.put_effect (h : tree.IsTarget parts target content) (octets : List UInt8) :
    (∀ path, (put (file octets) tree target).viewAt? path =
      if path = target then some (some octets) else tree.viewAt? path) ∧
    ∃ place, (put (file octets) tree target).find parts = .ok place ∧
      place.trail.reverse = target ∧ place.node = file octets := by
  have hView := viewAt?_put octets h.accepts
  have hMore := extends_of_viewAt? h.accepts.viewAt?_ne_directory hView
  exact ⟨hView, h.find_of_extends hMore ((hView target).trans (if_pos rfl))⟩

/-- Octets that are added to a file are at its end afterwards, whatever parts led to
it; nothing else changes. -/
theorem append_effect (h : tree.append parts octets = .ok after) :
    ∃ target content, tree.appendTarget parts = .ok (target, content) ∧
      (tree.viewAt? target = some (some content) ∨
        tree.viewAt? target = none ∧ content = []) ∧
      (∀ path, after.viewAt? path =
        if path = target then some (some (content ++ octets)) else tree.viewAt? path) ∧
      after.appendTarget parts = .ok (target, content ++ octets) ∧
      after.read parts = .ok (content ++ octets) := by
  obtain ⟨⟨target, content⟩, hAppend, hAfter⟩ := bind_eq_ok_iff.mp h
  obtain rfl := Except.ok.inj hAfter
  have hTarget := isTarget_of_appendTarget hAppend
  obtain ⟨hView, ⟨trail, node, above⟩, hFind, rfl, rfl⟩ := hTarget.put_effect (content ++ octets)
  refine ⟨_, content, hAppend, hTarget.viewAt?, hView, ?_, ?_⟩
  · rw [appendTarget, hFind]
  · rw [read, hFind]
    rfl

end Append

/-! ## Trees without the octets of their files -/

mutual

/-- A tree whose files are all empty. -/
def skeleton : FileTree → FileTree
  | file _ => file []
  | directory entries => directory (skeletonOfEntries entries)

/-- Entries whose files are all empty. -/
def skeletonOfEntries : List (String × FileTree) → List (String × FileTree)
  | [] => []
  | (name, node) :: entries => (name, node.skeleton) :: skeletonOfEntries entries

end

/-- A place in the tree with empty files. -/
def Place.skeleton (place : Place) : Place :=
  ⟨place.trail, place.node.skeleton, place.above.map FileTree.skeleton⟩

end PatchCoverage.FileTree
