import Mathlib.Data.Nat.Find
import SchemaExport.Proofs.Record
import SchemaExport.Registry

/-! A registry as its history tells it.

A history is a row of operations, and the place of an operation in it is its time. Times alone tell
what a registry holds: a name is listed while nothing has taken it out since it was registered, it
stands where the first registration since its last removal put it, and it has the schema of its last
registration. Taking out a name that is not listed has no effect and is no removal.
-/

set_option autoImplicit false

namespace SchemaExport.Registry

inductive Operation where
  | register (name : String) (schema : Schema)
  | unregister (name : String)
  | clear

def apply (registry : Registry) : Operation → Registry
  | .register name schema => registry.register name schema
  | .unregister name => registry.unregister name
  | .clear => registry.clear

def run (registry : Registry) (history : List Operation) : Registry := history.foldl apply registry

/-- An operation after which a name is not there. -/
def Operation.TakesOut (name : String) : Operation → Prop
  | .register _ _ => False
  | .unregister other => other = name
  | .clear => True

/-! ## What a history tells -/

def RegisteredAt (history : List Operation) (name : String) (time : Nat) (schema : Schema) : Prop :=
  history[time]? = some (.register name schema)

/-- A name with a registration that nothing later takes out. -/
def Listed (history : List Operation) (name : String) : Prop :=
  ∃ time schema, RegisteredAt history name time schema ∧
    ∀ later operation, time < later → history[later]? = some operation → ¬ operation.TakesOut name

/-- A name that was listed is taken out. -/
def RemovedAt (history : List Operation) (name : String) (time : Nat) : Prop :=
  Listed (history.take time) name ∧ ∃ operation, history[time]? = some operation ∧ operation.TakesOut name

/-- The time of the first registration since the last removal. -/
structure StandsAt (history : List Operation) (name : String) (time : Nat) : Prop where
  registered : ∃ schema, RegisteredAt history name time schema
  since : ∀ later, time < later → ¬ RemovedAt history name later
  first : ∀ earlier schema, earlier < time → RegisteredAt history name earlier schema →
    ∃ removal, earlier < removal ∧ RemovedAt history name removal

def Before (history : List Operation) (left right : String) : Prop :=
  ∃ earlier later, earlier < later ∧ StandsAt history left earlier ∧ StandsAt history right later

def LastRegistered (history : List Operation) (name : String) (schema : Schema) : Prop :=
  ∃ time, RegisteredAt history name time schema ∧
    ∀ later other, time < later → ¬ RegisteredAt history name later other

/-! ## One more operation -/

section
variable {history : List Operation} {operation : Operation} {name : String} {time : Nat}

theorem getElem?_snoc {other : Operation} : (history ++ [operation])[time]? = some other ↔
    history[time]? = some other ∨ time = history.length ∧ operation = other := by
  rcases Nat.lt_trichotomy time history.length with within | rfl | beyond
  · simp [List.getElem?_append_left within, Nat.ne_of_lt within]
  · simp
  · have behind : (history ++ [operation])[time]? = none := by
      apply List.getElem?_eq_none
      rw [List.length_append]
      exact beyond
    rw [behind, List.getElem?_eq_none (Nat.le_of_lt beyond)]
    simp [Nat.ne_of_gt beyond]

theorem lt_length_of_getElem? {other : Operation} (found : history[time]? = some other) :
    time < history.length := (List.getElem?_eq_some_iff.1 found).1

theorem le_length_of_snoc {other : Operation} (found : (history ++ [operation])[time]? = some other) :
    time ≤ history.length := by
  have within := lt_length_of_getElem? found
  rw [List.length_append] at within
  exact Nat.le_of_lt_succ within

theorem registeredAt_snoc {schema : Schema} : RegisteredAt (history ++ [operation]) name time schema ↔
    RegisteredAt history name time schema ∨ time = history.length ∧ operation = .register name schema :=
  getElem?_snoc

theorem listed_snoc : Listed (history ++ [operation]) name ↔
    (∃ schema, operation = .register name schema) ∨ Listed history name ∧ ¬ operation.TakesOut name := by
  constructor
  · rintro ⟨time, schema, registered, kept⟩
    -- Either the new operation registers the name, or an earlier one does and the new one lets it stand.
    rcases registeredAt_snoc.1 registered with before | ⟨-, now⟩
    · refine .inr ⟨⟨time, schema, before, fun later other behind found => ?_⟩, ?_⟩
      · exact kept later other behind (getElem?_snoc.2 (.inl found))
      · exact kept history.length operation (lt_length_of_getElem? before) (getElem?_snoc.2 (.inr ⟨rfl, rfl⟩))
    · exact .inl ⟨schema, now⟩
  · rintro (⟨schema, rfl⟩ | ⟨⟨time, schema, registered, kept⟩, stays⟩)
    · refine ⟨history.length, schema, registeredAt_snoc.2 (.inr ⟨rfl, rfl⟩), fun later other behind found => ?_⟩
      exact absurd behind (Nat.not_lt_of_le (le_length_of_snoc found))
    · refine ⟨time, schema, registeredAt_snoc.2 (.inl registered), fun later other behind found => ?_⟩
      rcases getElem?_snoc.1 found with before | ⟨-, rfl⟩
      · exact kept later other behind before
      · exact stays

theorem removedAt_snoc : RemovedAt (history ++ [operation]) name time ↔
    RemovedAt history name time ∨ time = history.length ∧ Listed history name ∧ operation.TakesOut name := by
  -- What was listed at a time is told by the operations before it, to which none is added.
  have past {other : Operation} (found : history[time]? = some other ∨ time = history.length ∧ operation = other) :
      (history ++ [operation]).take time = history.take time := by
    rcases found with before | ⟨rfl, -⟩
    · exact List.take_append_of_le_length (Nat.le_of_lt (lt_length_of_getElem? before))
    · simp
  constructor
  · rintro ⟨listed, other, found, taken⟩
    have found := getElem?_snoc.1 found
    rw [past found] at listed
    rcases found with before | ⟨rfl, rfl⟩
    · exact .inl ⟨listed, other, before, taken⟩
    · exact .inr ⟨rfl, by simpa using listed, taken⟩
  · rintro (⟨listed, other, before, taken⟩ | ⟨rfl, listed, taken⟩)
    · exact ⟨past (.inl before) ▸ listed, other, getElem?_snoc.2 (.inl before), taken⟩
    · exact ⟨by simpa using listed, operation, getElem?_snoc.2 (.inr ⟨rfl, rfl⟩), taken⟩

theorem StandsAt.lt_length (stands : StandsAt history name time) : time < history.length :=
  let ⟨_, registered⟩ := stands.registered
  lt_length_of_getElem? registered

/-- A name that is not taken out stays where it stands. -/
theorem StandsAt.snoc (stands : StandsAt history name time) (stays : ¬ operation.TakesOut name) :
    StandsAt (history ++ [operation]) name time where
  registered := stands.registered.imp fun _ registered => registeredAt_snoc.2 (.inl registered)
  since later behind removed := by
    rcases removedAt_snoc.1 removed with before | ⟨-, -, taken⟩
    · exact stands.since later behind before
    · exact stays taken
  first earlier schema before registered := by
    rcases registeredAt_snoc.1 registered with known | ⟨rfl, -⟩
    · obtain ⟨removal, behind, removed⟩ := stands.first earlier schema before known
      exact ⟨removal, behind, removedAt_snoc.2 (.inl removed)⟩
    · exact absurd before (Nat.lt_asymm stands.lt_length)

/-- Whatever was registered and is not listed was removed since. -/
theorem exists_removedAt {schema : Schema} (registered : RegisteredAt history name time schema)
    (unlisted : ¬ Listed history name) : ∃ removal, time < removal ∧ RemovedAt history name removal := by
  classical
  have taken : ∃ later, time < later ∧ ∃ other, history[later]? = some other ∧ other.TakesOut name := by
    by_contra never
    apply unlisted
    refine ⟨time, schema, registered, fun later other behind found taken => never ?_⟩
    exact ⟨later, behind, other, found, taken⟩
  -- The first operation that takes the name out finds it listed.
  obtain ⟨behind, other, found, takes⟩ := Nat.find_spec taken
  refine ⟨Nat.find taken, behind, ⟨time, schema, ?_, fun later between later_lt inside hit => ?_⟩, other, found, takes⟩
  · rw [RegisteredAt, List.getElem?_take_of_lt behind]
    exact registered
  · have sooner : later < Nat.find taken := by
      have within := lt_length_of_getElem? inside
      rw [List.length_take] at within
      exact Nat.lt_of_lt_of_le within (Nat.min_le_left ..)
    rw [List.getElem?_take_of_lt sooner] at inside
    exact Nat.find_min taken sooner ⟨later_lt, between, inside, hit⟩

theorem exists_standsAt (listed : Listed history name) : ∃ time, StandsAt history name time := by
  classical
  have unremoved : ∃ time, (∃ schema, RegisteredAt history name time schema) ∧
      ∀ later, time < later → ¬ RemovedAt history name later := by
    obtain ⟨time, schema, registered, kept⟩ := listed
    refine ⟨time, ⟨schema, registered⟩, fun later behind removed => ?_⟩
    obtain ⟨-, other, found, taken⟩ := removed
    exact kept later other behind found taken
  obtain ⟨registered, since⟩ := Nat.find_spec unremoved
  refine ⟨Nat.find unremoved, registered, since, fun earlier schema before known => ?_⟩
  by_contra never
  refine Nat.find_min unremoved before ⟨⟨schema, known⟩, fun later behind removed => never ?_⟩
  exact ⟨later, behind, removed⟩

theorem standsAt_length (schema : Schema) (unlisted : ¬ Listed history name) :
    StandsAt (history ++ [.register name schema]) name history.length where
  registered := ⟨schema, registeredAt_snoc.2 (.inr ⟨rfl, rfl⟩)⟩
  since later behind removed := by
    obtain ⟨-, other, found, -⟩ := removed
    exact Nat.not_lt_of_le (le_length_of_snoc found) behind
  first earlier other before registered := by
    rcases registeredAt_snoc.1 registered with known | ⟨rfl, -⟩
    · obtain ⟨removal, behind, removed⟩ := exists_removedAt known unlisted
      exact ⟨removal, behind, removedAt_snoc.2 (.inl removed)⟩
    · exact absurd before (Nat.lt_irrefl _)

theorem Before.snoc {left right : String} (before : Before history left right)
    (leftStays : ¬ operation.TakesOut left) (rightStays : ¬ operation.TakesOut right) :
    Before (history ++ [operation]) left right := by
  obtain ⟨earlier, later, order, standsLeft, standsRight⟩ := before
  exact ⟨earlier, later, order, standsLeft.snoc leftStays, standsRight.snoc rightStays⟩

theorem lastRegistered_snoc {schema : Schema} : LastRegistered (history ++ [operation]) name schema ↔
    operation = .register name schema ∨
      (∀ other, operation ≠ .register name other) ∧ LastRegistered history name schema := by
  constructor
  · rintro ⟨time, registered, last⟩
    rcases registeredAt_snoc.1 registered with before | ⟨-, now⟩
    · refine .inr ⟨fun other again => ?_, time, before, fun later other behind => ?_⟩
      · exact last history.length other (lt_length_of_getElem? before) (registeredAt_snoc.2 (.inr ⟨rfl, again⟩))
      · exact fun again => last later other behind (registeredAt_snoc.2 (.inl again))
    · exact .inl now
  · rintro (rfl | ⟨other, time, registered, last⟩)
    · refine ⟨history.length, registeredAt_snoc.2 (.inr ⟨rfl, rfl⟩), fun later other behind again => ?_⟩
      exact Nat.not_lt_of_le (le_length_of_snoc again) behind
    · refine ⟨time, registeredAt_snoc.2 (.inl registered), fun later schema behind again => ?_⟩
      rcases registeredAt_snoc.1 again with before | ⟨-, now⟩
      · exact last later schema behind before
      · exact other schema now

end

/-! ## What a registry holds -/

/-- A registry that holds what a history tells. -/
structure Tells (history : List Operation) (registry : Registry) : Prop where
  listed : ∀ name, name ∈ registry.names ↔ Listed history name
  ordered : registry.names.Pairwise (Before history)
  held : ∀ name schema, registry.get? name = some schema ↔ Listed history name ∧ LastRegistered history name schema

section
variable {history : List Operation} {registry : Registry}

theorem Tells.register (told : Tells history registry) (name : String) (schema : Schema) :
    Tells (history ++ [.register name schema]) (registry.register name schema) := by
  have names : (registry.register name schema).names =
      if name ∈ registry.names then registry.names else registry.names ++ [name] := Record.keys_insert ..
  have nothing {other : String} : ¬ (Operation.register name schema).TakesOut other := id
  have listed (other : String) : Listed (history ++ [.register name schema]) other ↔
      name = other ∨ Listed history other := by
    rw [listed_snoc]
    simp [nothing]
  have ordered : registry.names.Pairwise (Before (history ++ [.register name schema])) :=
    told.ordered.imp fun before => before.snoc nothing nothing
  constructor
  case listed =>
    intro other
    rw [names, listed]
    split
    · rename_i known
      refine ⟨fun member => .inr ((told.listed other).1 member), ?_⟩
      rintro (rfl | before)
      · exact known
      · exact (told.listed other).2 before
    · rw [List.mem_append, List.mem_singleton, told.listed, or_comm, eq_comm]
  case ordered =>
    rw [names]
    split
    · exact ordered
    · rename_i fresh
      refine List.pairwise_append.2 ⟨ordered, List.pairwise_singleton .., fun other member last same => ?_⟩
      rw [List.mem_singleton.1 same]
      -- Whatever is there already stands before the time of this registration.
      obtain ⟨time, stands⟩ := exists_standsAt ((told.listed other).1 member)
      exact ⟨time, history.length, stands.lt_length, stands.snoc nothing,
        standsAt_length schema fun known => fresh ((told.listed name).2 known)⟩
  case held =>
    intro other value
    rw [listed, lastRegistered_snoc]
    by_cases same : name = other
    · subst same
      have held : (registry.register name schema).get? name = some schema := Record.get?_insert_self ..
      simp [held]
    · have kept : (registry.register name schema).get? other = registry.get? other :=
        Record.get?_insert_of_ne _ _ same
      simp [kept, same, told.held]

theorem Tells.unregister (told : Tells history registry) (name : String) :
    Tells (history ++ [.unregister name]) (registry.unregister name) := by
  have names : (registry.unregister name).names = registry.names.erase name := Record.keys_erase ..
  have remains {other : String} : other ∈ (registry.unregister name).names ↔
      other ≠ name ∧ other ∈ registry.names := by
    rw [names]
    exact registry.schemas.distinct.mem_erase_iff
  have listed (other : String) : Listed (history ++ [.unregister name]) other ↔
      name ≠ other ∧ Listed history other := by
    rw [listed_snoc]
    simp [Operation.TakesOut, and_comm]
  constructor
  case listed =>
    intro other
    rw [remains, listed, told.listed, ne_comm]
  case ordered =>
    have ordered : (registry.unregister name).names.Pairwise (Before history) := by
      rw [names]
      exact told.ordered.sublist List.erase_sublist
    -- What stays is another name than the one that goes, so that its place is that of before.
    refine ordered.imp_of_mem fun left right before => ?_
    exact before.snoc (fun same => (remains.1 left).1 same.symm) (fun same => (remains.1 right).1 same.symm)
  case held =>
    intro other schema
    rw [listed, lastRegistered_snoc]
    by_cases same : name = other
    · subst same
      have gone : (registry.unregister name).get? name = none := Record.get?_erase_self registry.schemas name
      simp [gone]
    · have kept : (registry.unregister name).get? other = registry.get? other :=
        Entries.get?_erase_of_ne _ same
      simp [kept, same, told.held]

theorem tells_nothing (unlisted : ∀ name, ¬ Listed history name) (empty : registry.names = []) :
    Tells history registry := by
  have absent (name : String) : registry.get? name = none := by
    apply (Record.get?_eq_none_iff registry.schemas name).2
    rw [← names, empty]
    exact List.not_mem_nil
  constructor
  case listed => simp [empty, unlisted]
  case ordered => simp [empty]
  case held => simp [absent, unlisted]

theorem tells_clear (history : List Operation) (registry : Registry) :
    Tells (history ++ [.clear]) registry.clear := by
  apply tells_nothing
  · intro name
    rw [listed_snoc]
    simp [Operation.TakesOut]
  · rfl

theorem Tells.apply (told : Tells history registry) (operation : Operation) :
    Tells (history ++ [operation]) (registry.apply operation) := by
  cases operation with
  | register name schema => exact told.register name schema
  | unregister name => exact told.unregister name
  | clear => exact tells_clear history registry

theorem run_snoc (registry : Registry) (history : List Operation) (operation : Operation) :
    registry.run (history ++ [operation]) = (registry.run history).apply operation := by
  simp [run]

theorem tells_run (header : Option String) (history : List Operation) :
    Tells history ((empty header).run history) := by
  induction history using List.reverseRecOn with
  | nil => exact tells_nothing (by simp [Listed, RegisteredAt]) rfl
  | append_singleton history operation ih =>
    rw [run_snoc]
    exact ih.apply operation

theorem header_apply (registry : Registry) (operation : Operation) :
    (registry.apply operation).header = registry.header := by
  cases operation <;> rfl

theorem header_run (registry : Registry) (history : List Operation) :
    (registry.run history).header = registry.header := by
  induction history generalizing registry with
  | nil => rfl
  | cons operation history ih => exact (ih (registry.apply operation)).trans (header_apply registry operation)

theorem schemas_registerAll (registry : Registry) (schemas : Entries Schema) :
    (registry.registerAll schemas).schemas = registry.schemas.extend schemas := by
  induction schemas generalizing registry with
  | nil => rfl
  | cons entry rest ih => exact ih (registry.register entry.1 entry.2)

theorem header_registerAll (registry : Registry) (schemas : Entries Schema) :
    (registry.registerAll schemas).header = registry.header := by
  induction schemas generalizing registry with
  | nil => rfl
  | cons schema rest ih => exact ih (registry.register schema.1 schema.2)

end

/-! ## What a registry renders -/

theorem joinLines_eq_intercalate (lines : List (List Char)) : joinLines lines = ['\n'].intercalate lines := by
  induction lines with
  | nil => rfl
  | cons line rest ih =>
    cases rest with
    | nil => simp [joinLines]
    | cons next rest => simp [joinLines, ih, List.intercalate]

theorem render_eq_names (registry : Registry) :
    registry.render = importLine ++ registry.header.toList ++ ['\n', '\n'] ++ ['\n'].intercalate
      (registry.names.filterMap fun name => (registry.get? name).map (declaration name)) := by
  have lines : registry.names.filterMap (fun name => (registry.get? name).map (declaration name)) =
      registry.entries.map fun entry => declaration entry.1 entry.2 := 
      Entries.filterMap_keys registry.schemas.distinct declaration
  rw [lines, ← joinLines_eq_intercalate]
  rfl

/-- A registry holds what its history tells, whatever operations it has seen. -/
theorem run_empty (header : Option String) (history : List Operation) :
    let registry := (empty header).run history
    registry.names.Nodup ∧ (∀ name, name ∈ registry.names ↔ Listed history name) ∧
      registry.names.Pairwise (Before history) ∧
      (∀ name schema, registry.get? name = some schema ↔
        Listed history name ∧ LastRegistered history name schema) ∧
      (∀ name, registry.get? name = none ↔ ¬ Listed history name) ∧
      registry.size = registry.names.length ∧ (registry.isEmpty = true ↔ registry.names = []) ∧
      registry.header = header.getD "" ∧
      registry.render = importLine ++ (header.getD "").toList ++ ['\n', '\n'] ++ ['\n'].intercalate
        (registry.names.filterMap fun name => (registry.get? name).map (declaration name)) := by
  intro registry
  have told : Tells history registry := tells_run header history
  have kept : registry.header = header.getD "" := header_run (empty header) history
  have absent (name : String) : registry.get? name = none ↔ ¬ Listed history name := by
    rw [← told.listed]
    exact Record.get?_eq_none_iff registry.schemas name
  have size : registry.size = registry.names.length := (List.length_map _).symm
  have isEmpty : registry.isEmpty = true ↔ registry.names = [] := by
    simp [Registry.isEmpty, Registry.names, Registry.entries, Record.keys, Entries.keys]
  have rendered := render_eq_names registry
  rw [kept] at rendered
  exact ⟨registry.schemas.distinct, told.listed, told.ordered, told.held, absent, size, isEmpty, kept, rendered⟩

/-- A name that comes back goes to the end; one that is replaced stays. -/
example (first second : Schema) :
    ((empty none).run [.register "A" first, .register "B" first, .register "C" first, .unregister "B",
      .register "A" second, .unregister "D", .register "B" second]).names = ["A", "C", "B"] := rfl

end SchemaExport.Registry
