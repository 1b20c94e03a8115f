import SchemaExport.Files.Path

/-! Paths and their parents, segment by segment. -/

set_option autoImplicit false

namespace SchemaExport.Files

theorem slash_not_mem_segments (path : List Char) : ∀ segment ∈ segments path, '/' ∉ segment := by
  induction path with
  | nil => simp [segments]
  | cons c rest ih =>
    rw [segments]
    split
    · exact List.forall_mem_cons.2 ⟨List.not_mem_nil, ih⟩
    · rename_i other
      split
      · simpa using Ne.symm other
      · rename_i segment others parts
        rw [parts, List.forall_mem_cons] at ih
        refine List.forall_mem_cons.2 ⟨?_, ih.2⟩
        rw [List.mem_cons, not_or]
        exact ⟨Ne.symm other, ih.1⟩

theorem segments_append_slash {segment : List Char} (clean : '/' ∉ segment) (rest : List Char) :
    segments (segment ++ '/' :: rest) = segment :: segments rest := by
  induction segment with
  | nil => simp [segments]
  | cons c segment ih =>
    rw [List.mem_cons, not_or] at clean
    rw [List.cons_append, segments, if_neg (Ne.symm clean.1), ih clean.2]

theorem segments_of_not_mem {segment : List Char} (clean : '/' ∉ segment) : segments segment = [segment] := by
  induction segment with
  | nil => rfl
  | cons c segment ih =>
    rw [List.mem_cons, not_or] at clean
    rw [segments, if_neg (Ne.symm clean.1), ih clean.2]

theorem segments_joinSegments {parts : List (List Char)} (nonempty : parts ≠ [])
    (clean : ∀ part ∈ parts, '/' ∉ part) : segments (joinSegments parts) = parts := by
  induction parts with
  | nil => exact absurd rfl nonempty
  | cons part rest ih =>
    obtain ⟨first, others⟩ := List.forall_mem_cons.1 clean
    cases rest with
    | nil => exact segments_of_not_mem first
    | cons next rest =>
      have more : next :: rest ≠ [] := List.cons_ne_nil _ _
      rw [joinSegments_cons part more, segments_append_slash first, ih more others]

theorem reverse_dropWhile_starts {α : Type} (drop : α → Bool) (list : List α) :
    (list.reverse.dropWhile drop).reverse <+: list := by
  apply List.reverse_suffix.1
  rw [List.reverse_reverse]
  exact List.dropWhile_suffix drop

theorem dropIdleEnd_starts (parts : List (List Char)) : dropIdleEnd parts <+: parts := by
  cases parts with
  | nil => exact List.nil_prefix
  | cons first rest => exact (List.prefix_cons_inj first).2 (reverse_dropWhile_starts isIdle rest)

theorem dropIdleEnd_ne_nil {parts : List (List Char)} (nonempty : parts ≠ []) : dropIdleEnd parts ≠ [] := by
  cases parts with
  | nil => exact absurd rfl nonempty
  | cons first rest => exact List.cons_ne_nil _ _

theorem isAbsolute_iff {path : List Char} :
    isAbsolute path = true ↔ ∃ rest, rest ≠ [] ∧ segments path = [] :: rest := by
  cases path with
  | nil => simp [isAbsolute, segments]
  | cons c rest =>
    by_cases slash : c = '/'
    · simp [isAbsolute, segments, slash, segments_ne_nil]
    · have named : ∀ others, segments (c :: rest) ≠ [] :: others := by
        rw [segments, if_neg slash]
        split <;> simp
      simp [isAbsolute, slash, named]

/-- A start of a path is absolute as the path is, unless it is the empty segment alone. -/
theorem isAbsolute_of_starts {path front : List Char} (start : segments front <+: segments path)
    (more : segments front ≠ [[]]) : isAbsolute front = isAbsolute path := by
  obtain ⟨rest, same⟩ := start
  obtain ⟨first, others, parted⟩ := List.exists_cons_of_ne_nil (segments_ne_nil front)
  rw [parted] at more same
  rw [Bool.eq_iff_iff, isAbsolute_iff, isAbsolute_iff, parted, ← same, List.cons_append]
  constructor
  · rintro ⟨tail, nonempty, split⟩
    obtain ⟨rfl, rfl⟩ := List.cons.inj split
    exact ⟨others ++ rest, List.append_ne_nil_of_left_ne_nil nonempty rest, rfl⟩
  · rintro ⟨tail, -, split⟩
    obtain ⟨rfl, -⟩ := List.cons.inj split
    exact ⟨others, fun none => more (none ▸ rfl), rfl⟩

/-- A parent starts where the path starts: it is the current directory, the root or a start of the path,
taken by segments. -/
theorem start_of_parent? {path parent : List Char} (isParent : parent? path = some parent) :
    parent = [] ∨ isAbsolute parent = isAbsolute path ∧ (parent = ['/'] ∨ segments parent <+: segments path) := by
  unfold parent? at isParent
  split at isParent
  · exact nomatch isParent
  · exact nomatch isParent
  · exact .inl (Option.some.inj isParent).symm
  · rename_i several
    right
    -- The idle end goes, then the last segment, then what is idle before it; each time a start is left.
    have shorter := dropIdleEnd_starts (segments path)
    have some := dropIdleEnd_ne_nil (segments_ne_nil path)
    generalize dropIdleEnd (segments path) = kept at several isParent shorter some
    have start := (dropIdleEnd_starts kept.dropLast).trans ((List.dropLast_prefix kept).trans shorter)
    have more : kept.dropLast ≠ [] := by
      intro none
      have alone := List.dropLast_concat_getLast some
      rw [none] at alone
      exact several _ alone.symm
    split at isParent
    · rename_i root
      cases isParent
      rw [root] at start
      obtain ⟨rest, same⟩ := start
      have absolute : isAbsolute path = true := by
        refine isAbsolute_iff.2 ⟨rest, ?_, same.symm⟩
        rintro rfl
        -- The path has the segment that was dropped as well.
        have longer := shorter.length_le
        have least := List.length_pos_iff.2 more
        rw [← same] at longer
        rw [List.length_dropLast] at least
        simp at longer
        omega
      exact ⟨absolute.symm, .inl rfl⟩
    · rename_i notRoot
      cases isParent
      have clean : ∀ part ∈ dropIdleEnd kept.dropLast, '/' ∉ part := fun part member =>
        slash_not_mem_segments path part (start.subset member)
      have taken := segments_joinSegments (dropIdleEnd_ne_nil more) clean
      rw [← taken] at start notRoot
      exact ⟨isAbsolute_of_starts start notRoot, .inr start⟩

end SchemaExport.Files
