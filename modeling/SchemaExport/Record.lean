/-! Records: entries in the order of their keys' first arrival, no key twice.

Writing a key that is there keeps its place and changes its value; erasing a key closes the gap.
-/

set_option autoImplicit false

namespace SchemaExport

/-- Keys with values, in order. A type of trees holds its own records in this form, since no constructor of
it can ask anything of the trees inside. -/
abbrev Entries (α : Type) (κ : Type := String) := List (κ × α)

namespace Entries

variable {α κ : Type}

def keys (entries : Entries α κ) : List κ := entries.map Prod.fst

/-- Every value replaced, under its key. -/
def mapValues {β : Type} (replace : κ → α → β) (entries : Entries α κ) : Entries β κ :=
  entries.map fun entry => (entry.1, replace entry.1 entry.2)

theorem keys_mapValues {β : Type} (replace : κ → α → β) (entries : Entries α κ) :
    (entries.mapValues replace).keys = entries.keys := by
  simp [keys, mapValues]

variable [DecidableEq κ]

def get? : Entries α κ → κ → Option α
  | [], _ => none
  | (key, value) :: rest, wanted => if key = wanted then some value else get? rest wanted

def insert : Entries α κ → κ → α → Entries α κ
  | [], key, value => [(key, value)]
  | (first, old) :: rest, key, value =>
    if first = key then (first, value) :: rest else (first, old) :: insert rest key value

def erase : Entries α κ → κ → Entries α κ
  | [], _ => []
  | (first, value) :: rest, key => if first = key then rest else (first, value) :: erase rest key

theorem get?_insert_self (entries : Entries α κ) (key : κ) (value : α) :
    (entries.insert key value).get? key = some value := by
  induction entries with
  | nil => simp [insert, get?]
  | cons entry rest ih => by_cases same : entry.1 = key <;> simp [insert, get?, same, ih]

theorem get?_insert_of_ne (entries : Entries α κ) {key other : κ} (value : α) (apart : key ≠ other) :
    (entries.insert key value).get? other = entries.get? other := by
  induction entries with
  | nil => simp [insert, get?, apart]
  | cons entry rest ih =>
    by_cases same : entry.1 = key
    · simp [insert, get?, same, apart]
    · simp [insert, get?, same, ih]

theorem keys_insert (entries : Entries α κ) (key : κ) (value : α) :
    (entries.insert key value).keys = if key ∈ entries.keys then entries.keys else entries.keys ++ [key] := by
  induction entries with
  | nil => simp [insert, keys]
  | cons entry rest ih =>
    by_cases same : entry.1 = key
    · simp [insert, keys, same]
    · have apart : key ≠ entry.1 := Ne.symm same
      simp only [keys] at ih
      simp only [insert, same, if_false, keys, List.map_cons, List.mem_cons, apart, false_or]
      split <;> simp_all

theorem get?_eq_none_iff (entries : Entries α κ) (key : κ) :
    entries.get? key = none ↔ key ∉ entries.keys := by
  induction entries with
  | nil => simp [get?, keys]
  | cons entry rest ih =>
    by_cases same : entry.1 = key
    · simp [get?, keys, same]
    · simp only [keys] at ih
      simp [get?, keys, same, Ne.symm same, ih]

theorem nodup_keys_insert {entries : Entries α κ} (distinct : entries.keys.Nodup) (key : κ) (value : α) :
    (entries.insert key value).keys.Nodup := by
  rw [keys_insert]
  split
  · exact distinct
  · rename_i fresh
    exact List.nodup_append.2 ⟨distinct, by simp, by
      intro a known b isKey
      rw [List.mem_singleton.1 isKey]
      exact fun same => fresh (same ▸ known)⟩

theorem keys_erase (entries : Entries α κ) (key : κ) : (entries.erase key).keys = entries.keys.erase key := by
  induction entries with
  | nil => rfl
  | cons entry rest ih =>
    by_cases same : entry.1 = key
    · simp [erase, keys, same]
    · simp only [keys] at ih
      simp [erase, keys, same, ih]

theorem nodup_keys_erase {entries : Entries α κ} (distinct : entries.keys.Nodup) (key : κ) :
    (entries.erase key).keys.Nodup := by
  rw [keys_erase]
  exact distinct.erase key

end Entries

/-- Keys with values, in order, no key twice. -/
@[ext] structure Record (α : Type) (κ : Type := String) where
  entries : Entries α κ
  distinct : entries.keys.Nodup

namespace Record

variable {α κ : Type}

def empty : Record α κ := ⟨[], List.nodup_nil⟩

def keys (record : Record α κ) : List κ := record.entries.keys

def mapValues {β : Type} (replace : κ → α → β) (record : Record α κ) : Record β κ where
  entries := record.entries.mapValues replace
  distinct := Entries.keys_mapValues replace record.entries ▸ record.distinct

/-- The record of what becomes of the entries, where that keeps their keys. -/
def transform {β ε : Type} (change : Entries α κ → Except ε (Entries β κ))
    (keeps : ∀ {entries changed}, change entries = .ok changed → changed.keys = entries.keys)
    (record : Record α κ) : Except ε (Record β κ) :=
  match changing : change record.entries with
  | .ok changed => .ok ⟨changed, keeps changing ▸ record.distinct⟩
  | .error error => .error error

theorem transform_eq_ok_iff {β ε : Type} {change : Entries α κ → Except ε (Entries β κ)}
    {keeps : ∀ {entries changed}, change entries = .ok changed → changed.keys = entries.keys}
    {record : Record α κ} {other : Record β κ} :
    record.transform change keeps = .ok other ↔ change record.entries = .ok other.entries := by
  unfold transform
  split <;> rename_i changing <;> simp [changing, Record.ext_iff]

variable [DecidableEq κ]

def get? (record : Record α κ) (key : κ) : Option α := record.entries.get? key

def contains (record : Record α κ) (key : κ) : Bool := (record.get? key).isSome

def insert (record : Record α κ) (key : κ) (value : α) : Record α κ :=
  ⟨record.entries.insert key value, Entries.nodup_keys_insert record.distinct key value⟩

def erase (record : Record α κ) (key : κ) : Record α κ :=
  ⟨record.entries.erase key, Entries.nodup_keys_erase record.distinct key⟩

/-- Entries written one after the other: a repeated key has its first place and its last value. -/
def extend (record : Record α κ) (entries : Entries α κ) : Record α κ :=
  entries.foldl (fun built entry => built.insert entry.1 entry.2) record

def ofEntries (entries : Entries α κ) : Record α κ := empty.extend entries

theorem get?_insert_self (record : Record α κ) (key : κ) (value : α) :
    (record.insert key value).get? key = some value := Entries.get?_insert_self ..

theorem get?_insert_of_ne (record : Record α κ) {key other : κ} (value : α) (apart : key ≠ other) :
    (record.insert key value).get? other = record.get? other := Entries.get?_insert_of_ne _ value apart

theorem keys_insert (record : Record α κ) (key : κ) (value : α) : (record.insert key value).keys =
    if key ∈ record.keys then record.keys else record.keys ++ [key] := Entries.keys_insert ..

theorem keys_erase (record : Record α κ) (key : κ) : (record.erase key).keys = record.keys.erase key :=
  Entries.keys_erase ..

theorem get?_eq_none_iff (record : Record α κ) (key : κ) : record.get? key = none ↔ key ∉ record.keys :=
  Entries.get?_eq_none_iff ..

end Record
end SchemaExport
