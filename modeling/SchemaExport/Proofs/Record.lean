import Mathlib.Data.List.Induction
import Mathlib.Data.List.Permutation
import SchemaExport.Record

/-! Records by what they hold: their keys in order, and the value of each key.

Two records that agree on both are the same. The record of a row of entries is thereby known without
the loop that builds it.
-/

set_option autoImplicit false

namespace SchemaExport

/-! ## Entries in a row -/

namespace Entries

variable {α κ : Type} [DecidableEq κ]

theorem ext_keys_get? {left right : Entries α κ} (distinct : left.keys.Nodup) (ordered : left.keys = right.keys)
    (values : ∀ key, left.get? key = right.get? key) : left = right := by
  induction left generalizing right with
  | nil =>
    cases right with
    | nil => rfl
    | cons _ _ => exact nomatch ordered
  | cons entry lefts ih =>
    cases right with
    | nil => exact nomatch ordered
    | cons other rights =>
      obtain ⟨key, value⟩ := entry
      obtain ⟨otherKey, otherValue⟩ := other
      obtain ⟨sameKey, sameKeys⟩ := List.cons.inj ordered
      obtain rfl : key = otherKey := sameKey
      have sameKeys : keys lefts = keys rights := sameKeys
      obtain ⟨fresh, distinct⟩ := List.nodup_cons.1 distinct
      have first := values key
      simp only [get?, if_true] at first
      have rest : lefts = rights := by
        apply ih distinct sameKeys
        intro wanted
        by_cases same : key = wanted
        · subst same
          rw [(get?_eq_none_iff lefts key).2 fresh, (get?_eq_none_iff rights key).2 (sameKeys ▸ fresh)]
        · simpa [get?, same] using values wanted
      rw [Option.some.inj first, rest]

theorem get?_append (front back : Entries α κ) (key : κ) :
    get? (front ++ back) key = (front.get? key).or (back.get? key) := by
  induction front with
  | nil => rfl
  | cons entry rest ih =>
    obtain ⟨first, value⟩ := entry
    by_cases same : first = key <;> simp [get?, same, ih]

theorem insert_of_get? {entries : Entries α κ} {key : κ} {value : α} (present : entries.get? key = some value) :
    entries.insert key value = entries := by
  induction entries with
  | nil => exact nomatch present
  | cons entry rest ih =>
    obtain ⟨first, old⟩ := entry
    by_cases same : first = key
    · rw [get?, if_pos same] at present
      rw [insert, if_pos same, Option.some.inj present]
    · rw [get?, if_neg same] at present
      rw [insert, if_neg same, ih present]

theorem insert_of_not_mem {entries : Entries α κ} {key : κ} (fresh : key ∉ entries.keys) (value : α) :
    entries.insert key value = entries ++ [(key, value)] := by
  induction entries with
  | nil => rfl
  | cons entry rest ih =>
    obtain ⟨first, old⟩ := entry
    rw [keys, List.map_cons, List.mem_cons, not_or] at fresh
    rw [insert, if_neg (Ne.symm fresh.1), ih fresh.2]
    rfl

theorem insert_append {front : Entries α κ} {key : κ} (fresh : key ∉ front.keys) (old value : α)
    (back : Entries α κ) : insert (front ++ (key, old) :: back) key value = front ++ (key, value) :: back := by
  induction front with
  | nil => simp [insert]
  | cons entry rest ih =>
    rw [keys, List.map_cons, List.mem_cons, not_or] at fresh
    rw [List.cons_append, insert, if_neg (Ne.symm fresh.1), ih fresh.2, List.cons_append]

/-- Entries around the first place of a key. -/
theorem exists_append_of_mem_keys {entries : Entries α κ} {key : κ} (known : key ∈ entries.keys) :
    ∃ front old back, entries = front ++ (key, old) :: back ∧ key ∉ keys front := by
  induction entries with
  | nil => exact nomatch known
  | cons entry rest ih =>
    obtain ⟨first, value⟩ := entry
    by_cases same : first = key
    · exact ⟨[], value, rest, by rw [same, List.nil_append], List.not_mem_nil⟩
    · have behind : key ∈ keys rest := (List.mem_cons.1 known).resolve_left (Ne.symm same)
      obtain ⟨front, old, back, parted, fresh⟩ := ih behind
      refine ⟨(first, value) :: front, old, back, by rw [parted, List.cons_append], fun member => ?_⟩
      exact (List.mem_cons.1 member).elim (Ne.symm same) fresh

theorem get?_erase_of_ne (entries : Entries α κ) {key other : κ} (apart : key ≠ other) :
    (entries.erase key).get? other = entries.get? other := by
  induction entries with
  | nil => rfl
  | cons entry rest ih =>
    by_cases same : entry.1 = key
    · simp [erase, get?, same, apart]
    · simp [erase, get?, same, ih]

/-- What is made of the entries in order, told by the keys and their values. -/
theorem filterMap_keys {β : Type} {entries : Entries α κ} (distinct : entries.keys.Nodup) (make : κ → α → β) :
    entries.keys.filterMap (fun key => (entries.get? key).map (make key)) =
      entries.map fun entry => make entry.1 entry.2 := by
  induction entries with
  | nil => rfl
  | cons entry rest ih =>
    obtain ⟨fresh, distinct⟩ := List.nodup_cons.1 distinct
    -- The keys are distinct, so that looking one of the rest up passes the first entry.
    have others : (keys rest).filterMap (fun key => (get? (entry :: rest) key).map (make key)) =
        (keys rest).filterMap (fun key => (get? rest key).map (make key)) := by
      apply List.filterMap_congr
      intro key member
      have apart : entry.1 ≠ key := fun same => fresh (same ▸ member)
      simp [get?, apart]
    have first : get? (entry :: rest) entry.1 = some entry.2 := if_pos rfl
    have made := ih distinct
    rw [← others] at made
    simpa [keys, first] using made

theorem get?_mapValues {β : Type} (replace : κ → α → β) (entries : Entries α κ) (key : κ) :
    (entries.mapValues replace).get? key = (entries.get? key).map (replace key) := by
  induction entries with
  | nil => rfl
  | cons entry rest ih =>
    obtain ⟨first, value⟩ := entry
    rw [mapValues] at ih ⊢
    by_cases same : first = key
    · simp [get?, same]
    · simp [get?, same, ih]

theorem mem_of_mem_insert {entries : Entries α κ} {key : κ} {value : α} {entry : κ × α}
    (member : entry ∈ entries.insert key value) : entry ∈ entries ∨ entry = (key, value) := by
  induction entries with
  | nil => exact .inr (List.mem_singleton.1 member)
  | cons first rest ih =>
    obtain ⟨other, old⟩ := first
    by_cases same : other = key
    · rw [insert, if_pos same] at member
      rcases List.mem_cons.1 member with rfl | member
      · exact .inr (same ▸ rfl)
      · exact .inl (List.mem_cons_of_mem _ member)
    · rw [insert, if_neg same] at member
      rcases List.mem_cons.1 member with rfl | member
      · exact .inl List.mem_cons_self
      · exact (ih member).imp_left (List.mem_cons_of_mem _)

end Entries

/-! ## Records -/

namespace Record

variable {α κ : Type} [DecidableEq κ]

theorem ext_keys_get? {left right : Record α κ} (ordered : left.keys = right.keys)
    (values : ∀ key, left.get? key = right.get? key) : left = right :=
  Record.ext (Entries.ext_keys_get? left.distinct ordered values)

theorem get?_erase_self (record : Record α κ) (key : κ) : (record.erase key).get? key = none := by
  rw [get?_eq_none_iff, keys_erase]
  exact fun member => (record.distinct.mem_erase_iff.1 member).1 rfl

theorem get?_mapValues {β : Type} (replace : κ → α → β) (record : Record α κ) (key : κ) :
    (record.mapValues replace).get? key = (record.get? key).map (replace key) := Entries.get?_mapValues ..

/-- The record of a row of entries: each key where it stood first, with the value that stood last. -/
structure Collected (entries : Entries α κ) (record : Record α κ) : Prop where
  order : record.keys = (entries.map Prod.fst).eraseDups
  last : ∀ key, record.get? key = Entries.get? entries.reverse key

theorem ofEntries_append_singleton (entries : Entries α κ) (entry : κ × α) :
    ofEntries (entries ++ [entry]) = (ofEntries entries).insert entry.1 entry.2 := by
  simp [ofEntries, extend]

theorem eraseDups_concat {β : Type} [DecidableEq β] (items : List β) (item : β) :
    (items ++ [item]).eraseDups = if item ∈ items then items.eraseDups else items.eraseDups ++ [item] := by
  rw [List.eraseDups_append]
  have alone : [item].eraseDups = [item] := by simp [List.eraseDups_cons]
  split <;> simp [List.removeAll, *]

theorem keys_ofEntries (entries : Entries α κ) :
    (ofEntries entries).keys = (entries.map Prod.fst).eraseDups := by
  induction entries using List.reverseRecOn with
  | nil => rfl
  | append_singleton entries entry ih =>
    rw [ofEntries_append_singleton, keys_insert, ih, List.map_append, List.map_singleton, eraseDups_concat]
    simp only [List.mem_eraseDups]

theorem get?_ofEntries (entries : Entries α κ) (key : κ) :
    (ofEntries entries).get? key = Entries.get? entries.reverse key := by
  induction entries using List.reverseRecOn with
  | nil => rfl
  | append_singleton entries entry ih =>
    obtain ⟨last, value⟩ := entry
    rw [ofEntries_append_singleton, List.reverse_append]
    by_cases same : last = key
    · subst same
      simp [Entries.get?, get?_insert_self]
    · simp [Entries.get?, same, get?_insert_of_ne, ih]

theorem collected_iff {entries : Entries α κ} {record : Record α κ} :
    Collected entries record ↔ record = ofEntries entries := by
  constructor
  · intro ⟨order, last⟩
    exact ext_keys_get? (order.trans (keys_ofEntries entries).symm)
      fun key => (last key).trans (get?_ofEntries entries key).symm
  · rintro rfl
    exact ⟨keys_ofEntries entries, get?_ofEntries entries⟩

theorem entries_ofEntries {entries : Entries α κ} (distinct : entries.keys.Nodup) :
    (ofEntries entries).entries = entries := by
  induction entries using List.reverseRecOn with
  | nil => rfl
  | append_singleton entries entry ih =>
    rw [Entries.keys, List.map_append, List.nodup_append] at distinct
    obtain ⟨before, -, apart⟩ := distinct
    have fresh : entry.1 ∉ Entries.keys entries := fun known => apart _ known entry.1 (by simp) rfl
    have snoc : (ofEntries (entries ++ [entry])).entries = (ofEntries entries).entries.insert entry.1 entry.2 :=
      congrArg Record.entries (ofEntries_append_singleton entries entry)
    rw [snoc, ih before, Entries.insert_of_not_mem fresh]

/-- A record is that of its own entries. -/
theorem ofEntries_entries (record : Record α κ) : ofEntries record.entries = record :=
  Record.ext (entries_ofEntries record.distinct)

theorem collected_entries (record : Record α κ) : Collected record.entries record :=
  collected_iff.2 (ofEntries_entries record).symm

theorem get?_reverse (record : Record α κ) (key : κ) :
    Entries.get? record.entries.reverse key = record.get? key := (record.collected_entries.last key).symm

theorem mem_of_mem_extend {record : Record α κ} {entries : Entries α κ} {entry : κ × α}
    (member : entry ∈ (record.extend entries).entries) : entry ∈ record.entries ∨ entry ∈ entries := by
  induction entries generalizing record with
  | nil => exact .inl member
  | cons first rest ih =>
    rcases ih member with before | behind
    · rcases Entries.mem_of_mem_insert before with old | rfl
      · exact .inl old
      · exact .inr List.mem_cons_self
    · exact .inr (List.mem_cons_of_mem _ behind)

theorem mem_of_mem_ofEntries {entries : Entries α κ} {entry : κ × α}
    (member : entry ∈ (ofEntries entries).entries) : entry ∈ entries :=
  (mem_of_mem_extend member).resolve_left List.not_mem_nil

end Record
end SchemaExport
