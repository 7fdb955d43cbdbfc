import PatchCoverage.Text.Cluster

namespace PatchCoverage

/-!
# Texts whose width is that of their characters

Two marks change the width of other characters: the joiner takes the character after
it into the one before, and the picture mark widens the one before.  A text without
them is as wide as its characters are together, and its clusters are single characters
with what fills no column behind them.
-/

/-- A text with neither of the marks that change the width of other characters. -/
def IsUnmarked (text : List Char) : Prop :=
  '\u200d' ∉ text ∧ pictureMark ∉ text

instance : DecidablePred IsUnmarked :=
  fun text => inferInstanceAs (Decidable ('\u200d' ∉ text ∧ pictureMark ∉ text))

section Width

variable {front rest text : List Char}

theorem isUnmarked_append_iff :
    IsUnmarked (front ++ rest) ↔ IsUnmarked front ∧ IsUnmarked rest := by
  simp only [IsUnmarked, List.mem_append, not_or]
  exact and_and_and_comm

theorem IsUnmarked.of_subset (h : IsUnmarked text) (hPart : rest ⊆ text) : IsUnmarked rest :=
  ⟨fun hJoiner => h.1 (hPart hJoiner), fun hMark => h.2 (hPart hMark)⟩

theorem IsUnmarked.tail {c : Char} (h : IsUnmarked (c :: text)) : IsUnmarked text :=
  h.of_subset (List.subset_cons_self c text)

theorem IsUnmarked.head_ne {c : Char} (h : IsUnmarked (c :: text)) :
    c ≠ '\u200d' ∧ c ≠ pictureMark :=
  ⟨fun hJoiner => h.1 (hJoiner ▸ List.mem_cons_self),
    fun hMark => h.2 (hMark ▸ List.mem_cons_self)⟩

/-- No character fills more than two columns. -/
theorem columns_le_two (c : Char) : columns c ≤ 2 := by
  unfold columns
  repeat' split
  all_goals decide

/-- The columns that the characters of a text fill, each for itself. -/
def columnSum (text : List Char) : Nat :=
  text.foldr (fun c width => columns c + width) 0

@[simp]
theorem columnSum_cons (c : Char) : columnSum (c :: text) = columns c + columnSum text :=
  rfl

theorem columnSum_append : columnSum (front ++ rest) = columnSum front + columnSum rest := by
  induction front with
  | nil => exact (Nat.zero_add _).symm
  | cons c front ih => rw [List.cons_append, columnSum_cons, columnSum_cons, ih, Nat.add_assoc]

theorem columnSum_eq_zero (h : ∀ c ∈ text, columns c = 0) : columnSum text = 0 := by
  induction text with
  | nil => rfl
  | cons c text ih =>
      obtain ⟨hFirst, hOthers⟩ := List.forall_mem_cons.mp h
      rw [columnSum_cons, hFirst, ih hOthers]

theorem textWidthAfter_of_isUnmarked (before? : Option Char) (h : IsUnmarked text) :
    textWidthAfter before? text = columnSum text := by
  fun_induction textWidthAfter before? text with
  | case1 before? => rfl
  | case2 before? joined rest ih => exact absurd rfl h.head_ne.1
  | case3 before? rest hJoiner ih => exact absurd rfl h.head_ne.2
  | case4 before? c rest hJoiner hMark hColumns ih => simpa [hColumns] using ih h.tail
  | case5 before? c rest hJoiner hMark hColumns ih => simpa using ih h.tail

theorem textWidth_of_isUnmarked (h : IsUnmarked text) :
    textWidth text = columnSum text :=
  textWidthAfter_of_isUnmarked none h

theorem textWidth_append (h : IsUnmarked (front ++ rest)) :
    textWidth (front ++ rest) = textWidth front + textWidth rest := by
  obtain ⟨hFront, hRest⟩ := isUnmarked_append_iff.mp h
  rw [textWidth_of_isUnmarked h, textWidth_of_isUnmarked hFront, textWidth_of_isUnmarked hRest,
    columnSum_append]

theorem textWidth_le_of_isPrefix (h : IsUnmarked text) (hFront : front <+: text) :
    textWidth front ≤ textWidth text := by
  obtain ⟨rest, rfl⟩ := hFront
  rw [textWidth_append h]
  exact Nat.le_add_right _ _

end Width

/-! ## Clusters -/

/-- Clusters are the text that they are made from. -/
theorem flatMap_clustersAfter (cluster : List Char) (width : Nat) (before? : Option Char)
    (characters : List Char) :
    (clustersAfter cluster width before? characters).flatMap Cluster.characters =
      cluster.reverse ++ characters := by
  fun_induction clustersAfter cluster width before? characters with
  | case1 cluster width before? => simp
  | case2 cluster width before? joined rest ih => simp [ih]
  | case3 cluster width before? rest hJoiner ih => simp [ih]
  | case4 cluster width before? c rest hJoiner hMark hColumns ih => simp [ih]
  | case5 cluster width before? c rest hJoiner hMark hColumns ih => simp [ih]

theorem flatMap_clusters (text : List Char) :
    (clusters text).flatMap Cluster.characters = text := by
  cases text with
  | nil => rfl
  | cons first text => rw [clusters, flatMap_clustersAfter]; rfl

/-- A cluster that is one character with what fills no column behind it. -/
def Cluster.IsSingle (cluster : Cluster) : Prop :=
  ∃ c marks, cluster.characters = c :: marks ∧ cluster.width = columns c ∧
    ∀ mark ∈ marks, columns mark = 0

theorem Cluster.IsSingle.width_le_two {cluster : Cluster} (h : cluster.IsSingle) :
    cluster.width ≤ 2 := by
  obtain ⟨c, marks, -, hWidth, -⟩ := h
  exact hWidth ▸ columns_le_two c

theorem Cluster.IsSingle.textWidth {cluster : Cluster} (h : cluster.IsSingle)
    (hUnmarked : IsUnmarked cluster.characters) :
    textWidth cluster.characters = cluster.width := by
  obtain ⟨c, marks, hCharacters, hWidth, hMarks⟩ := h
  rw [textWidth_of_isUnmarked hUnmarked, hCharacters, hWidth, columnSum_cons,
    columnSum_eq_zero hMarks, Nat.add_zero]

/-- What begins with the character of a cluster is at least as wide as the cluster. -/
theorem Cluster.IsSingle.width_le {cluster : Cluster} (h : cluster.IsSingle) {front : List Char}
    (hFront : front <+: cluster.characters) (hSome : front ≠ [])
    (hUnmarked : IsUnmarked cluster.characters) :
    cluster.width ≤ PatchCoverage.textWidth front := by
  obtain ⟨c, marks, hCharacters, hWidth, -⟩ := h
  rw [textWidth_of_isUnmarked (hUnmarked.of_subset hFront.subset), hWidth]
  cases front with
  | nil => exact absurd rfl hSome
  | cons first front =>
      rw [hCharacters] at hFront
      obtain rfl := (List.cons_prefix_cons.mp hFront).1
      simp

/-- The clusters of a text without marks are single characters, and all after the first
fill some column. -/
theorem clustersAfter_of_isUnmarked {text : List Char} (cluster : List Char) (width : Nat)
    (before? : Option Char) (h : IsUnmarked text) :
    ∃ marks others,
      clustersAfter cluster width before? text = ⟨cluster.reverse ++ marks, width⟩ :: others ∧
        (∀ mark ∈ marks, columns mark = 0) ∧
        ∀ other ∈ others, other.IsSingle ∧ 0 < other.width := by
  fun_induction clustersAfter cluster width before? text with
  | case1 cluster width before? => exact ⟨[], [], by simp⟩
  | case2 cluster width before? joined rest ih => exact absurd rfl h.head_ne.1
  | case3 cluster width before? rest hJoiner ih => exact absurd rfl h.head_ne.2
  | case4 cluster width before? c rest hJoiner hMark hColumns ih =>
      obtain ⟨marks, others, hClusters, hMarks, hOthers⟩ := ih h.tail
      refine ⟨c :: marks, others, by simp [hClusters], ?_, hOthers⟩
      exact List.forall_mem_cons.mpr ⟨hColumns, hMarks⟩
  | case5 cluster width before? c rest hJoiner hMark hColumns ih =>
      obtain ⟨marks, others, hClusters, hMarks, hOthers⟩ := ih h.tail
      refine ⟨[], _, by rw [hClusters, List.append_nil], by simp, ?_⟩
      exact List.forall_mem_cons.mpr
        ⟨⟨⟨c, marks, rfl, rfl, hMarks⟩, Nat.pos_of_ne_zero hColumns⟩, hOthers⟩

theorem clusters_of_isUnmarked {c : Char} {text : List Char} (h : IsUnmarked (c :: text)) :
    ∃ first others, clusters (c :: text) = first :: others ∧ first.IsSingle ∧
      ∀ other ∈ others, other.IsSingle ∧ 0 < other.width := by
  obtain ⟨marks, others, hClusters, hMarks, hOthers⟩ := clustersAfter_of_isUnmarked [c] (columns c)
    (if columns c = 0 then none else some c) h.tail
  exact ⟨_, others, hClusters, ⟨c, marks, rfl, rfl, hMarks⟩, hOthers⟩

theorem isSingle_of_mem_clusters {text : List Char} {cluster : Cluster} (h : IsUnmarked text)
    (hMem : cluster ∈ clusters text) : cluster.IsSingle := by
  cases text with
  | nil => cases hMem
  | cons c text =>
      obtain ⟨first, others, hClusters, hFirst, hOthers⟩ := clusters_of_isUnmarked h
      rw [hClusters] at hMem
      rcases List.mem_cons.mp hMem with rfl | hOther
      · exact hFirst
      · exact (hOthers cluster hOther).1

theorem pos_of_mem_tail_clusters {text : List Char} (h : IsUnmarked text) :
    ∀ cluster ∈ (clusters text).tail, 0 < cluster.width := by
  cases text with
  | nil => nofun
  | cons c text =>
      obtain ⟨first, others, hClusters, -, hOthers⟩ := clusters_of_isUnmarked h
      rw [hClusters]
      exact fun cluster hMem => (hOthers cluster hMem).2

end PatchCoverage
