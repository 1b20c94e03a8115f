import Mathlib.Data.List.Basic
import SchemaExport.Files.Tree
import SchemaExport.Proofs.Files.Path

/-! What the operations on a tree of files leave as it was.

A file that is written changes one place, and a path that leads to a place still leads there as long
as directories stay directories, links stay links and nothing goes. Making directories adds them one by
one, each where a start of the path leads. This holds over links and whatever the system refuses.
-/

set_option autoImplicit false

namespace SchemaExport.Files.Tree

/-! ## Entries -/

theorem entry?_put (tree : Tree) {place : Place} (inside : place ≠ []) (entry : Entry) (other : Place) :
    entry? (tree.put place entry) other = if other = place then some entry else tree.entry? other := by
  by_cases same : other = place
  · subst same
    simp [ entry?, inside, put, Record.get?_insert_self]
  · simp [ entry?, same, put, Record.get?_insert_of_ne _ _ (Ne.symm same)]

theorem isLink_eq_true_iff {tree : Tree} {place : Place} :
    tree.isLink place = true ↔ ∃ target, tree.entry? place = some (.link target) := by
  unfold isLink
  split <;> simp_all

def content? (tree : Tree) (place : Place) : Option Content :=
  match tree.entry? place with
  | some (.file content) => some content
  | _ => none

theorem permit_eq_ok_iff {α : Type} {tree : Tree} {access : Access} {place : Place}
    {result : Except FileFault α} {value : α} :
    tree.permit access place result = .ok value ↔ tree.refuses access place = none ∧ result = .ok value := by
  unfold permit
  split <;> simp [*]

/-! ## Following a path -/

theorem enter_eq_ok_iff {tree : Tree} {place : Place} {segment : List Char} :
    tree.enter place segment = .ok () ↔
      tree.entry? place = some .directory ∧ (segment = [] ∨ tree.refuses .search place = none) := by
  unfold enter
  split
  · rename_i found
    split
    · rename_i empty
      simp [found, empty]
    · rename_i named
      simp [found, named, permit_eq_ok_iff]
  · rename_i found
    simp_all
  · rename_i found
    simp [found]

structure IsName (segment : List Char) : Prop where
  visible : isIdle segment = false
  notParent : segment ≠ ['.', '.']

/-- Where one segment leads from a directory, with the segments behind it. -/
inductive Leads (tree : Tree) (final : Bool) (place : Place) (segment : List Char) (rest : List (List Char)) :
    Move → Prop where
  | stay : isIdle segment = true → Leads tree final place segment rest (.on place)
  | up : isIdle segment = false → segment = ['.', '.'] → Leads tree final place segment rest (.on place.dropLast)
  | last : IsName segment → tree.isLast final (place ++ [segment]) rest = true →
      Leads tree final place segment rest (.stop (.child place segment (rest != [])))
  | jump {target : List Char} : IsName segment → tree.isLast final (place ++ [segment]) rest = false →
      Text.byteLength segment ≤ nameLimit → tree.entry? (place ++ [segment]) = some (.link target) →
      Leads tree final place segment rest (.jump (startOf place target) (segments target))
  | down : IsName segment → tree.isLast final (place ++ [segment]) rest = false →
      Text.byteLength segment ≤ nameLimit → (tree.entry? (place ++ [segment])).isSome = true →
      tree.isLink (place ++ [segment]) = false → Leads tree final place segment rest (.on (place ++ [segment]))

theorem lookUp_eq_ok_iff {tree : Tree} {place : Place} {name : List Char} {move : Move} :
    tree.lookUp place name = .ok move ↔ Text.byteLength name ≤ nameLimit ∧
      ((∃ target, tree.entry? (place ++ [name]) = some (.link target) ∧ move = .jump (startOf place target) (segments target)) ∨
        (tree.entry? (place ++ [name])).isSome = true ∧ tree.isLink (place ++ [name]) = false ∧ move = .on (place ++ [name])) := by
  unfold lookUp isLink
  by_cases long : nameLimit < Text.byteLength name
  · simp [long, Nat.not_le_of_lt long]
  · rw [if_neg long]
    have short := Nat.le_of_not_lt long
    cases found : tree.entry? (place ++ [name]) with
    | none => simp
    | some entry => cases entry <;> simp [short, eq_comm]

theorem step_eq_ok_iff {tree : Tree} {final : Bool} {place : Place} {segment : List Char}
    {rest : List (List Char)} {move : Move} : tree.step final place segment rest = .ok move ↔
      tree.enter place segment = .ok () ∧ Leads tree final place segment rest move := by
  constructor
  · intro stepped
    unfold step at stepped
    split at stepped
    · exact nomatch stepped
    · rename_i entered
      refine ⟨entered, ?_⟩
      split at stepped
      · rename_i idle
        cases stepped
        exact .stay idle
      · rename_i notIdle
        have visible : isIdle segment = false := Bool.eq_false_iff.2 notIdle
        split at stepped
        · rename_i upwards
          cases stepped
          exact .up visible upwards
        · rename_i notUpwards
          have isName : IsName segment := ⟨visible, notUpwards⟩
          split at stepped
          · rename_i atEnd
            cases stepped
            exact .last isName atEnd
          · rename_i further
            have more := Bool.eq_false_iff.2 further
            obtain ⟨short, ⟨target, found, rfl⟩ | ⟨present, notLink, rfl⟩⟩ := lookUp_eq_ok_iff.1 stepped
            · exact .jump isName more short found
            · exact .down isName more short present notLink
  · rintro ⟨entered, leads⟩
    rw [step, entered]
    cases leads with
    | stay idle => simp [idle]
    | up visible upwards =>
      subst upwards
      simp [visible]
    | last isName atEnd => simp [isName.visible, isName.notParent, atEnd]
    | jump isName further short found =>
      simp [isName.visible, isName.notParent, further, lookUp_eq_ok_iff.2 ⟨short, .inl ⟨_, found, rfl⟩⟩]
    | down isName further short present notLink =>
      simp [isName.visible, isName.notParent, further, lookUp_eq_ok_iff.2 ⟨short, .inr ⟨present, notLink, rfl⟩⟩]

theorem reach_nil (tree : Tree) (final : Bool) (links : Nat) (place : Place) :
    tree.reach final links place [] = .ok (.there place) := by
  cases links <;> rfl

/-- One segment further; a link takes one of those that are left. -/
theorem reach_cons (tree : Tree) (final : Bool) (links : Nat) (place : Place) (segment : List Char)
    (rest : List (List Char)) : tree.reach final links place (segment :: rest) =
      match tree.step final place segment rest with
      | .error fault => .error fault
      | .ok (.on next) => tree.reach final links next rest
      | .ok (.jump start more) =>
        match links with
        | 0 => .error .tooManyLinks
        | fewer + 1 => tree.reach final fewer start (more ++ rest)
      | .ok (.stop reached) => .ok reached := by
  cases links <;> rfl

/-- The way along segments over so many links at most. -/
inductive Reaches (tree : Tree) (final : Bool) : Nat → Place → List (List Char) → Reached → Prop where
  | done {links : Nat} {place : Place} : Reaches tree final links place [] (.there place)
  | on {links : Nat} {place next : Place} {segment : List Char} {rest : List (List Char)} {reached : Reached} :
      tree.step final place segment rest = .ok (.on next) → Reaches tree final links next rest reached →
      Reaches tree final links place (segment :: rest) reached
  | jump {links : Nat} {place start : Place} {segment : List Char} {more rest : List (List Char)} {reached : Reached} :
      tree.step final place segment rest = .ok (.jump start more) →
      Reaches tree final links start (more ++ rest) reached →
      Reaches tree final (links + 1) place (segment :: rest) reached
  | stop {links : Nat} {place : Place} {segment : List Char} {rest : List (List Char)} {reached : Reached} :
      tree.step final place segment rest = .ok (.stop reached) →
      Reaches tree final links place (segment :: rest) reached

theorem reach_eq_ok_iff {tree : Tree} {final : Bool} {links : Nat} {place : Place} {parts : List (List Char)}
    {reached : Reached} :
    tree.reach final links place parts = .ok reached ↔ Reaches tree final links place parts reached := by
  constructor
  · intro walked
    -- Behind a link there are fewer links, and before the next one there are fewer segments.
    induction links using Nat.strongRecOn generalizing place parts with
    | ind links overLink =>
      induction parts generalizing place with
      | nil =>
        rw [reach_nil] at walked
        cases walked
        exact .done
      | cons segment rest ih =>
        rw [reach_cons] at walked
        split at walked
        · exact nomatch walked
        · rename_i stepped
          exact .on stepped (ih walked)
        · rename_i stepped
          cases links with
          | zero => exact nomatch walked
          | succ fewer => exact .jump stepped (overLink fewer (Nat.lt_succ_self fewer) walked)
        · rename_i stepped
          cases walked
          exact .stop stepped
  · intro reaches
    induction reaches with
    | done => exact reach_nil ..
    | on stepped _ ih => rw [reach_cons, stepped, ← ih]
    | jump stepped _ ih => rw [reach_cons, stepped, ← ih]
    | stop stepped => rw [reach_cons, stepped]

/-! ## What stays when a tree grows -/

/-- Directories stay, links stay the same links and all others no links, and whatever is there stays
there; what is refused is still refused, and nothing else. -/
structure Keeps (before after : Tree) : Prop where
  current : after.current = before.current
  refuses : after.refuses = before.refuses
  directories : ∀ place, before.entry? place = some .directory → after.entry? place = some .directory
  links : ∀ place target, after.entry? place = some (.link target) ↔ before.entry? place = some (.link target)
  present : ∀ place, (before.entry? place).isSome = true → (after.entry? place).isSome = true

theorem keeps_put {tree : Tree} {place : Place} (inside : place ≠ []) {entry : Entry}
    (old : tree.isLink place = false) (new : ∀ target, entry ≠ .link target)
    (free : tree.entry? place ≠ some .directory ∨ entry = .directory) : Keeps tree (tree.put place entry) where
  current := rfl
  refuses := rfl
  directories other isDirectory := by
    rw [entry?_put tree inside]
    split
    · rename_i same
      subst same
      exact free.elim (fun notDirectory => absurd isDirectory notDirectory) fun same => same ▸ rfl
    · exact isDirectory
  links other target := by
    rw [entry?_put tree inside]
    split
    · rename_i same
      subst same
      have plain : tree.entry? other ≠ some (.link target) := fun link =>
        Bool.false_ne_true (old.symm.trans (isLink_eq_true_iff.2 ⟨target, link⟩))
      simp [plain, new target]
    · exact Iff.rfl
  present other present := by
    rw [entry?_put tree inside]
    split
    · rfl
    · exact present

section
variable {before after : Tree}

theorem Keeps.isLink_eq (keeps : Keeps before after) (place : Place) : after.isLink place = before.isLink place := by
  rw [Bool.eq_iff_iff, isLink_eq_true_iff, isLink_eq_true_iff]
  exact exists_congr (keeps.links place)

theorem Keeps.enter (keeps : Keeps before after) {place : Place} {segment : List Char}
    (entered : before.enter place segment = .ok ()) : after.enter place segment = .ok () := by
  obtain ⟨isDirectory, allowed⟩ := enter_eq_ok_iff.1 entered
  exact enter_eq_ok_iff.2 ⟨keeps.directories place isDirectory, keeps.refuses ▸ allowed⟩

theorem Keeps.isLast_eq (keeps : Keeps before after) (final : Bool) (place : Place) (rest : List (List Char)) :
    after.isLast final place rest = before.isLast final place rest := by
  rw [isLast, isLast, keeps.isLink_eq]

theorem Keeps.step (keeps : Keeps before after) {final : Bool} {place : Place} {segment : List Char}
    {rest : List (List Char)} {move : Move} (stepped : before.step final place segment rest = .ok move) :
    after.step final place segment rest = .ok move := by
  obtain ⟨entered, leads⟩ := step_eq_ok_iff.1 stepped
  refine step_eq_ok_iff.2 ⟨keeps.enter entered, ?_⟩
  cases leads with
  | stay idle => exact .stay idle
  | up visible upwards => exact .up visible upwards
  | last isName atEnd => exact .last isName ((keeps.isLast_eq ..).trans atEnd)
  | jump isName further short found =>
    exact .jump isName ((keeps.isLast_eq ..).trans further) short ((keeps.links ..).2 found)
  | down isName further short present notLink =>
    exact .down isName ((keeps.isLast_eq ..).trans further) short (keeps.present _ present)
      ((keeps.isLink_eq _).trans notLink)

theorem Keeps.reach (keeps : Keeps before after) {final : Bool} {links : Nat} {place : Place}
    {parts : List (List Char)} {reached : Reached} (walked : before.reach final links place parts = .ok reached) :
    after.reach final links place parts = .ok reached := by
  rw [reach_eq_ok_iff] at walked ⊢
  induction walked with
  | done => exact .done
  | on stepped _ ih => exact .on (keeps.step stepped) ih
  | jump stepped _ ih => exact .jump (keeps.step stepped) ih
  | stop stepped => exact .stop (keeps.step stepped)

theorem settle_child_eq_ok_iff {tree : Tree} {directory reached : Place} {name : List Char} {slash : Bool} :
    tree.settle (.child directory name slash) = .ok reached ↔ Text.byteLength name ≤ nameLimit ∧
      (∃ entry, tree.entry? (directory ++ [name]) = some entry ∧ (slash = true → entry = .directory)) ∧
      reached = directory ++ [name] := by
  rw [Tree.settle]
  split
  · rename_i long
    simp [Nat.not_le_of_lt long]
  · rename_i fits
    have short := Nat.le_of_not_lt fits
    cases found : tree.entry? (directory ++ [name]) with
    | none => simp
    | some entry =>
      by_cases wrong : slash = true ∧ entry ≠ .directory
      · simp [wrong]
      · have right : slash = true → entry = .directory := by simpa using wrong
        have right' : (slash && decide (entry ≠ .directory)) = false := by simpa using right
        simp only [right', Bool.false_eq_true, if_false, short, true_and, Option.some.injEq, exists_eq_left', eq_true right]
        exact ⟨fun same => (Except.ok.inj same).symm, fun same => same ▸ rfl⟩

theorem Keeps.settle (keeps : Keeps before after) {reached : Reached} {place : Place}
    (settled : before.settle reached = .ok place) : after.settle reached = .ok place := by
  cases reached with
  | there other => exact settled
  | child directory name slash =>
    obtain ⟨short, ⟨entry, found, forSlash⟩, rfl⟩ := settle_child_eq_ok_iff.1 settled
    obtain ⟨new, there⟩ := Option.isSome_iff_exists.1 (keeps.present _ (by rw [found]; rfl))
    refine settle_child_eq_ok_iff.2 ⟨short, ⟨new, there, fun slashed => ?_⟩, rfl⟩
    rw [forSlash slashed] at found
    exact Option.some.inj (there.symm.trans (keeps.directories _ found))

theorem Keeps.find (keeps : Keeps before after) {place reached : Place} {parts : List (List Char)}
    (found : before.find place parts = .ok reached) : after.find place parts = .ok reached := by
  unfold Tree.find at found ⊢
  split at found
  · rename_i walked
    rw [keeps.reach walked]
    exact keeps.settle found
  · exact nomatch found

end

/-! ## The way of a path -/

/-- A place to which a start of a path leads. -/
def OnWay (tree : Tree) (path : List Char) (place : Place) : Prop :=
  ∃ front, front <+: segments path ∧ tree.find (startOf tree.current path) front = .ok place

theorem Keeps.onWay {before after : Tree} (keeps : Keeps before after) {path : List Char} {place : Place}
    (onWay : OnWay before path place) : OnWay after path place := by
  obtain ⟨front, start, found⟩ := onWay
  exact ⟨front, start, keeps.current ▸ keeps.find found⟩

theorem find_nil (tree : Tree) (place : Place) : tree.find place [] = .ok place := by
  rw [Tree.find, reach_nil]
  rfl

theorem reached_of_empty {tree : Tree} {final : Bool} {links : Nat} {place : Place} {front : List (List Char)}
    {reached : Reached} (reaches : Reaches tree final links place front reached)
    (empty : ∀ segment ∈ front, segment = []) : reached = .there place := by
  have still {place : Place} {segment : List Char} {rest : List (List Char)} {move : Move}
      (none : segment = []) (stepped : tree.step final place segment rest = .ok move) : move = .on place := by
    subst none
    obtain ⟨-, leads⟩ := step_eq_ok_iff.1 stepped
    cases leads with
    | stay => rfl
    | up visible => exact nomatch visible
    | last isName | jump isName | down isName => exact nomatch isName.visible
  induction reaches with
  | done => rfl
  | on stepped _ ih =>
    obtain ⟨none, others⟩ := List.forall_mem_cons.1 empty
    cases still none stepped
    exact ih others
  | jump stepped => exact nomatch still (empty _ List.mem_cons_self) stepped
  | stop stepped => exact nomatch still (empty _ List.mem_cons_self) stepped

theorem eq_of_find_empty {tree : Tree} {place reached : Place} {front : List (List Char)}
    (empty : ∀ segment ∈ front, segment = []) (found : tree.find place front = .ok reached) : reached = place := by
  unfold Tree.find at found
  split at found
  · rename_i walked
    rw [reached_of_empty (reach_eq_ok_iff.1 walked) empty] at found
    exact (Except.ok.inj found).symm
  · exact nomatch found

theorem OnWay.of_parent? {tree : Tree} {path parent : List Char} {place : Place}
    (isParent : parent? path = some parent) (named : parent ≠ []) (onWay : OnWay tree parent place) :
    OnWay tree path place := by
  obtain ⟨front, start, found⟩ := onWay
  rcases start_of_parent? isParent with none | ⟨alike, root | above⟩
  · exact absurd none named
  · subst root
    have empty : ∀ segment ∈ front, segment = [] := fun segment member => by
      simpa [segments] using start.subset member
    have same : startOf tree.current path = startOf tree.current ['/'] := by rw [startOf, startOf, alike]
    refine ⟨[], List.nil_prefix, ?_⟩
    rw [find_nil, same, eq_of_find_empty empty found]
  · have same : startOf tree.current parent = startOf tree.current path := by rw [startOf, startOf, alike]
    exact ⟨front, start.trans above, same ▸ found⟩

/-! ## New entries -/

theorem isLast_eq_true_iff {tree : Tree} {final : Bool} {place : Place} {rest : List (List Char)} :
    tree.isLast final place rest = true ↔
      (∀ segment ∈ rest, segment = []) ∧ (final = true → tree.isLink place = false) := by
  cases final <;> simp [isLast]

/-- Where the last name is no link, it is all the same whether it is followed. -/
theorem follow_step {tree : Tree} {final : Bool} {place : Place} {segment : List Char} {rest : List (List Char)}
    {move : Move} (stepped : tree.step final place segment rest = .ok move)
    (ends : ∀ directory name slash, move = .stop (.child directory name slash) → tree.isLink (directory ++ [name]) = false) :
    tree.step true place segment rest = .ok move := by
  have further (more : tree.isLast final (place ++ [segment]) rest = false) :
      tree.isLast true (place ++ [segment]) rest = false := by
    rw [Bool.eq_false_iff, ne_eq, isLast_eq_true_iff] at more ⊢
    exact fun last => more ⟨last.1, fun _ => last.2 rfl⟩
  obtain ⟨entered, leads⟩ := step_eq_ok_iff.1 stepped
  refine step_eq_ok_iff.2 ⟨entered, ?_⟩
  cases leads with
  | stay idle => exact .stay idle
  | up visible upwards => exact .up visible upwards
  | last isName atEnd =>
    exact .last isName (isLast_eq_true_iff.2 ⟨(isLast_eq_true_iff.1 atEnd).1, fun _ => ends _ _ _ rfl⟩)
  | jump isName more short found => exact .jump isName (further more) short found
  | down isName more short present notLink => exact .down isName (further more) short present notLink

theorem follow_reach {tree : Tree} {final : Bool} {links : Nat} {place directory : Place}
    {parts : List (List Char)} {name : List Char} {slash : Bool}
    (walked : tree.reach final links place parts = .ok (.child directory name slash))
    (plain : tree.isLink (directory ++ [name]) = false) :
    tree.reach true links place parts = .ok (.child directory name slash) := by
  rw [reach_eq_ok_iff] at walked ⊢
  generalize same : Reached.child directory name slash = reached at walked
  induction walked with
  | done => exact nomatch same
  | on stepped _ ih => exact .on (follow_step stepped nofun) (ih same)
  | jump stepped _ ih => exact .jump (follow_step stepped nofun) (ih same)
  | stop stepped =>
    refine .stop (follow_step stepped fun _ _ _ ends => ?_)
    cases same
    cases ends
    exact plain

theorem reach_of_reachPath {tree : Tree} {final : Bool} {path : List Char} {reached : Reached}
    (walked : tree.reachPath final path = .ok reached) : checkPath path = .ok () ∧
      tree.reach final linkLimit (startOf tree.current path) (segments path) = .ok reached := by
  unfold reachPath at walked
  split at walked
  · rename_i checked
    exact ⟨checked, walked⟩
  · exact nomatch walked

/-- A new entry, which is no link and takes no directory away, stands where the path leads, and all else
is as it was. -/
structure Added (tree : Tree) (path : List Char) (place : Place) (entry : Entry) (after : Tree) : Prop where
  keeps : Keeps tree after
  checked : checkPath path = .ok ()
  found : after.find (startOf tree.current path) (segments path) = .ok place
  here : after.entry? place = some entry
  others : ∀ other, other ≠ place → after.entry? other = tree.entry? other

theorem added_put {tree : Tree} {final : Bool} {path : List Char} {directory : Place} {name : List Char}
    {slash : Bool} {entry : Entry} (walked : tree.reachPath final path = .ok (.child directory name slash))
    (short : Text.byteLength name ≤ nameLimit) (old : tree.isLink (directory ++ [name]) = false)
    (new : ∀ target, entry ≠ .link target)
    (free : tree.entry? (directory ++ [name]) ≠ some .directory ∨ entry = .directory)
    (forSlash : slash = true → entry = .directory) :
    Added tree path (directory ++ [name]) entry (tree.put (directory ++ [name]) entry) := by
  have inside : directory ++ [name] ≠ [] := by simp
  have here : entry? (tree.put (directory ++ [name]) entry) (directory ++ [name]) = some entry := by
    rw [entry?_put tree inside, if_pos rfl]
  have keeps : Keeps tree (tree.put (directory ++ [name]) entry) := keeps_put inside old new free
  obtain ⟨checked, reached⟩ := reach_of_reachPath walked
  refine ⟨keeps, checked, ?_, here, fun other apart => ?_⟩
  · rw [Tree.find, keeps.reach (follow_reach reached old)]
    exact settle_child_eq_ok_iff.2 ⟨short, ⟨entry, here, forSlash⟩, rfl⟩
  · rw [entry?_put tree inside, if_neg apart]

theorem Added.locate {tree after : Tree} {path : List Char} {place : Place} {entry : Entry}
    (added : Added tree path place entry after) : after.locate path = .ok place := by
  have found := added.found
  rw [← added.keeps.current] at found
  rw [Tree.locate, reachPath, added.checked]
  exact found

/-! ## Writing a file -/

theorem write_eq_ok_iff {tree after : Tree} {path content : List Char} :
    tree.write path content = .ok after ↔ ∃ directory name, tree.reachPath true path = .ok (.child directory name false) ∧
      Text.byteLength name ≤ nameLimit ∧ tree.entry? (directory ++ [name]) ≠ some .directory ∧
      (tree.entry? (directory ++ [name]) = none → tree.refuses .add directory = none) ∧
      tree.refuses .write (directory ++ [name]) = none ∧
      after = tree.put (directory ++ [name]) (.file (.text content)) := by
  constructor
  · intro written
    unfold write at written
    split at written
    · exact nomatch written
    · exact nomatch written
    · rename_i directory name slash reached
      dsimp only at written
      split at written
      · exact nomatch written
      · rename_i noSlash
        obtain rfl := Bool.eq_false_iff.2 noSlash
        split at written
        · exact nomatch written
        · rename_i fits
          have short := Nat.le_of_not_lt fits
          split at written
          · exact nomatch written
          · rename_i entry notDirectory found
            obtain ⟨granted, same⟩ := permit_eq_ok_iff.1 written
            refine ⟨directory, name, reached, short, ?_, by simp [found], granted, (Except.ok.inj same).symm⟩
            rw [found]
            exact fun same => notDirectory (Option.some.inj same)
          · rename_i absent
            obtain ⟨added, same⟩ := permit_eq_ok_iff.1 written
            obtain ⟨granted, same⟩ := permit_eq_ok_iff.1 same
            exact ⟨directory, name, reached, short, by simp [absent], fun _ => added, granted, (Except.ok.inj same).symm⟩
  · rintro ⟨directory, name, reached, short, notDirectory, added, granted, rfl⟩
    rw [write, reached]
    dsimp only
    rw [if_neg Bool.false_ne_true, if_neg (Nat.not_lt_of_le short)]
    split
    · rename_i isDirectory
      exact absurd isDirectory notDirectory
    · exact permit_eq_ok_iff.2 ⟨granted, rfl⟩
    · rename_i absent
      exact permit_eq_ok_iff.2 ⟨added absent, permit_eq_ok_iff.2 ⟨granted, rfl⟩⟩

theorem write_over {tree : Tree} {path content name : List Char} {directory : Place} {old : Content}
    (reached : tree.reachPath true path = .ok (.child directory name false)) (short : Text.byteLength name ≤ nameLimit)
    (found : tree.entry? (directory ++ [name]) = some (.file old))
    (granted : tree.refuses .write (directory ++ [name]) = none) :
    tree.write path content = .ok (tree.put (directory ++ [name]) (.file (.text content))) :=
  write_eq_ok_iff.2 ⟨directory, name, reached, short, by simp [found], by simp [found], granted, rfl⟩

theorem isLink_of_reach {tree : Tree} {links : Nat} {place directory : Place} {parts : List (List Char)}
    {name : List Char} {slash : Bool}
    (walked : tree.reach true links place parts = .ok (.child directory name slash)) :
    tree.isLink (directory ++ [name]) = false := by
  rw [reach_eq_ok_iff] at walked
  generalize same : Reached.child directory name slash = reached at walked
  induction walked with
  | done => exact nomatch same
  | on _ _ ih => exact ih same
  | jump _ _ ih => exact ih same
  | stop stepped =>
    subst same
    obtain ⟨-, leads⟩ := step_eq_ok_iff.1 stepped
    cases leads with
    | last _ atEnd => exact (isLast_eq_true_iff.1 atEnd).2 rfl

/-- A written file is where the path leads, with the content, and all else is as it was. -/
theorem added_of_write {tree after : Tree} {path content : List Char} (written : tree.write path content = .ok after) :
    ∃ place, Added tree path place (.file (.text content)) after := by
  obtain ⟨directory, name, reached, short, notDirectory, -, -, rfl⟩ := write_eq_ok_iff.1 written
  have old := isLink_of_reach (reach_of_reachPath reached).2
  exact ⟨directory ++ [name], added_put reached short old nofun (.inl notDirectory) nofun⟩

/-! ## Making directories -/

/-- All that is new are directories on the way to a path. -/
structure Grown (path : List Char) (before after : Tree) : Prop where
  current : after.current = before.current
  refuses : after.refuses = before.refuses
  kept : ∀ place entry, before.entry? place = some entry → after.entry? place = some entry
  added : ∀ place entry, before.entry? place = none → after.entry? place = some entry →
    entry = .directory ∧ OnWay after path place

namespace Grown

theorem refl (path : List Char) (tree : Tree) : Grown path tree tree where
  current := rfl
  refuses := rfl
  kept _ _ present := present
  added place entry absent present := by simp [absent] at present

theorem keeps {path : List Char} {before after : Tree} (grown : Grown path before after) : Keeps before after where
  current := grown.current
  refuses := grown.refuses
  directories place isDirectory := grown.kept place _ isDirectory
  links place target := by
    refine ⟨fun link => ?_, grown.kept place _⟩
    cases found : before.entry? place with
    | none =>
      obtain ⟨same, -⟩ := grown.added place _ found link
      exact nomatch same
    | some old => exact (grown.kept place old found).symm.trans link
  present place present := by
    obtain ⟨entry, found⟩ := Option.isSome_iff_exists.1 present
    rw [grown.kept place entry found]
    rfl

theorem trans {path : List Char} {before between after : Tree} (first : Grown path before between)
    (second : Grown path between after) : Grown path before after where
  current := second.current.trans first.current
  refuses := second.refuses.trans first.refuses
  kept place entry present := second.kept place entry (first.kept place entry present)
  added place entry absent present := by
    cases found : between.entry? place with
    | none => exact second.added place entry found present
    | some old =>
      obtain ⟨rfl, onWay⟩ := first.added place old absent found
      have same := second.kept place .directory found
      rw [present] at same
      exact ⟨Option.some.inj same, second.keeps.onWay onWay⟩

theorem of_parent? {path parent : List Char} {before after : Tree} (isParent : parent? path = some parent)
    (named : parent ≠ []) (grown : Grown parent before after) : Grown path before after where
  current := grown.current
  refuses := grown.refuses
  kept := grown.kept
  added place entry absent present :=
    (grown.added place entry absent present).imp_right fun onWay => onWay.of_parent? isParent named

end Grown

theorem makeDirectory_eq_ok_iff {tree after : Tree} {path : List Char} :
    tree.makeDirectory path = .ok after ↔ ∃ directory name slash,
      tree.reachPath false path = .ok (.child directory name slash) ∧ Text.byteLength name ≤ nameLimit ∧
      tree.entry? (directory ++ [name]) = none ∧ tree.refuses .add directory = none ∧
      after = tree.put (directory ++ [name]) .directory := by
  constructor
  · intro made
    unfold makeDirectory at made
    split at made
    · exact nomatch made
    · exact nomatch made
    · rename_i directory name slash reached
      split at made
      · exact nomatch made
      · rename_i fits
        split at made
        · exact nomatch made
        · rename_i free
          obtain ⟨granted, same⟩ := permit_eq_ok_iff.1 made
          have absent : tree.entry? (directory ++ [name]) = none := Option.not_isSome_iff_eq_none.1 free
          exact ⟨directory, name, slash, reached, Nat.le_of_not_lt fits, absent, granted, (Except.ok.inj same).symm⟩
  · rintro ⟨directory, name, slash, reached, short, absent, granted, rfl⟩
    rw [makeDirectory, reached]
    simp [Nat.not_lt_of_le short, absent, permit, granted]

theorem grown_of_makeDirectory {tree after : Tree} {path : List Char}
    (made : tree.makeDirectory path = .ok after) : Grown path tree after := by
  obtain ⟨directory, name, slash, reached, short, free, -, rfl⟩ := makeDirectory_eq_ok_iff.1 made
  have old : tree.isLink (directory ++ [name]) = false := by simp [isLink, free]
  have put : Added tree path (directory ++ [name]) .directory (tree.put (directory ++ [name]) .directory) :=
    added_put reached short old nofun (.inr rfl) fun _ => rfl
  constructor
  case current => rfl
  case refuses => rfl
  case kept =>
    intro place entry present
    rw [put.others place]
    · exact present
    · rintro rfl
      exact nomatch free.symm.trans present
  case added =>
    intro place entry absent present
    by_cases same : place = directory ++ [name]
    · subst same
      -- The whole path leads to the new place in the tree that has it.
      exact ⟨Option.some.inj (present.symm.trans put.here), segments path, List.prefix_rfl, put.found⟩
    · rw [put.others place same, absent] at present
      exact nomatch present

/-- However it ends, making the directories of a path adds directories on the way and nothing else. -/
theorem grown_makeDirectories (length : Nat) (tree : Tree) (path : List Char) :
    Grown path tree (makeDirectories length tree path).1 := by
  induction length generalizing tree path with
  | zero => exact .refl path tree
  | succ length ih =>
    rw [makeDirectories]
    split
    · exact .refl path tree
    · split
      · rename_i made
        exact grown_of_makeDirectory made
      · -- Whether making the parents fails or not, they have grown on the way of the path.
        have above : Grown path tree (makeDirectories length tree ((parent? path).getD [])).1 := by
          have nothing : (makeDirectories length tree []).1 = tree := by cases length <;> rfl
          cases isParent : parent? path with
          | none =>
            rw [Option.getD_none, nothing]
            exact .refl path tree
          | some parent =>
            by_cases named : parent = []
            · rw [Option.getD_some, named, nothing]
              exact .refl path tree
            · exact (ih tree parent).of_parent? isParent named
        split
        · rename_i failed
          rw [failed] at above
          exact above
        · rename_i made
          rw [made] at above
          split
          · rename_i again
            exact above.trans (grown_of_makeDirectory again)
          · exact above
      · exact .refl path tree

end SchemaExport.Files.Tree
