import Mathlib

namespace MediasoupClient

/-!
# String-keyed maps

`RemoteSdp::midToIndex` and `Handler::mapMidTransceiver` are
`std::map<std::string, T>` values.  The model keeps the entries as an
association list whose keys are duplicate-free, so that `size` is the number
of keys, and carries that invariant as a field.

The C++ code reads these maps in two ways: `find` (no side effect) and
`operator[]`, which inserts the key with a value-initialized `T` when it is
absent.  Both are modelled, since the second one is observable.
-/

/-- Replace the value of `key`, or append the entry when `key` is absent. -/
def assignEntry (key : String) (value : α) :
    List (String × α) → List (String × α)
  | [] => [(key, value)]
  | entry :: rest =>
      if entry.1 = key then (key, value) :: rest
      else entry :: assignEntry key value rest

/-- The value stored under `key` in an association list. -/
def lookupEntry (key : String) : List (String × α) → Option α
  | [] => none
  | entry :: rest =>
      if entry.1 = key then some entry.2 else lookupEntry key rest

/-- Remove the entry of `key`. -/
def eraseEntry (key : String) : List (String × α) → List (String × α)
  | [] => []
  | entry :: rest =>
      if entry.1 = key then eraseEntry key rest
      else entry :: eraseEntry key rest

/-- Erasing keeps an ordered subset of the entries. -/
theorem eraseEntry_sublist (key : String) (entries : List (String × α)) :
    List.Sublist (eraseEntry key entries) entries := by
  induction entries with
  | nil =>
      exact .slnil
  | cons entry rest inductionHypothesis =>
      by_cases sameKey : entry.1 = key
      · simpa [eraseEntry, sameKey] using inductionHypothesis.cons entry
      · simpa [eraseEntry, sameKey] using inductionHypothesis.cons_cons entry

/-- Looking up after an assignment. -/
theorem lookupEntry_assignEntry
    (key other : String) (value : α) (entries : List (String × α)) :
    lookupEntry other (assignEntry key value entries) =
      if other = key then some value else lookupEntry other entries := by
  induction entries with
  | nil =>
      by_cases otherIsKey : other = key
      · subst otherIsKey
        simp [assignEntry, lookupEntry]
      · simp [assignEntry, lookupEntry, otherIsKey, Ne.symm otherIsKey]
  | cons entry rest inductionHypothesis =>
      by_cases sameKey : entry.1 = key
      · by_cases otherIsKey : other = key
        · subst otherIsKey
          simp [assignEntry, lookupEntry, sameKey]
        · simp [assignEntry, lookupEntry, sameKey, otherIsKey,
            Ne.symm otherIsKey]
      · by_cases otherIsEntry : entry.1 = other
        · have otherNeKey : other ≠ key := otherIsEntry ▸ sameKey
          simp [assignEntry, lookupEntry, sameKey, otherIsEntry, otherNeKey]
        · simp [assignEntry, lookupEntry, sameKey, otherIsEntry,
            inductionHypothesis]

/-- Looking up after an erasure. -/
theorem lookupEntry_eraseEntry
    (key other : String) (entries : List (String × α)) :
    lookupEntry other (eraseEntry key entries) =
      if other = key then none else lookupEntry other entries := by
  induction entries with
  | nil =>
      simp [eraseEntry, lookupEntry]
  | cons entry rest inductionHypothesis =>
      by_cases sameKey : entry.1 = key
      · by_cases otherIsKey : other = key
        · subst otherIsKey
          simp [eraseEntry, sameKey, inductionHypothesis]
        · simp [eraseEntry, lookupEntry, sameKey, otherIsKey,
            Ne.symm otherIsKey, inductionHypothesis]
      · by_cases otherIsEntry : entry.1 = other
        · have otherNeKey : other ≠ key := otherIsEntry ▸ sameKey
          simp [eraseEntry, lookupEntry, sameKey, otherIsEntry, otherNeKey]
        · simp [eraseEntry, lookupEntry, sameKey, otherIsEntry,
            inductionHypothesis]

/-- Assigning an absent key appends exactly one entry. -/
theorem length_assignEntry_of_lookupEntry
    {key : String} (value : α) {entries : List (String × α)}
    (absent : lookupEntry key entries = none) :
    (assignEntry key value entries).length = entries.length + 1 := by
  induction entries with
  | nil =>
      rfl
  | cons entry rest inductionHypothesis =>
      by_cases sameKey : entry.1 = key
      · simp [lookupEntry, sameKey] at absent
      · simp only [lookupEntry, sameKey, ↓reduceIte] at absent
        simp [assignEntry, sameKey, inductionHypothesis absent]

/-- Keys of an association list, in order. -/
def entryKeys (entries : List (String × α)) : List String :=
  entries.map Prod.fst

/-- Assigning a key adds at most that key to the keys. -/
theorem mem_entryKeys_assignEntry
    {key other : String} {value : α} {entries : List (String × α)} :
    other ∈ entryKeys (assignEntry key value entries) ↔
      other = key ∨ other ∈ entryKeys entries := by
  induction entries with
  | nil =>
      simp [assignEntry, entryKeys]
  | cons entry rest inductionHypothesis =>
      by_cases sameKey : entry.1 = key
      · simp only [entryKeys] at inductionHypothesis ⊢
        simp only [assignEntry, sameKey, ↓reduceIte, List.map_cons,
          List.mem_cons]
        tauto
      · simp only [entryKeys] at inductionHypothesis ⊢
        simp only [assignEntry, sameKey, ↓reduceIte, List.map_cons,
          List.mem_cons, inductionHypothesis]
        tauto

/-- Assigning a key keeps the keys duplicate-free. -/
theorem nodup_entryKeys_assignEntry
    {key : String} {value : α} {entries : List (String × α)}
    (noDuplicates : (entryKeys entries).Nodup) :
    (entryKeys (assignEntry key value entries)).Nodup := by
  induction entries with
  | nil =>
      simp [assignEntry, entryKeys]
  | cons entry rest inductionHypothesis =>
      simp only [entryKeys, List.map_cons, List.nodup_cons] at noDuplicates
      by_cases sameKey : entry.1 = key
      · simpa [assignEntry, sameKey, entryKeys] using noDuplicates
      · simp only [assignEntry, sameKey, ↓reduceIte, entryKeys,
          List.map_cons, List.nodup_cons]
        refine ⟨?_, inductionHypothesis noDuplicates.2⟩
        intro member
        rcases mem_entryKeys_assignEntry.mp member with isKey | inRest
        · exact sameKey isKey
        · exact noDuplicates.1 inRest

/-- A `std::map<std::string, α>`: entries with pairwise distinct keys. -/
structure StringMap (α : Type) where
  entries : List (String × α)
  keysNodup : (entryKeys entries).Nodup
  deriving DecidableEq

namespace StringMap

variable {α : Type}

/-- The empty map. -/
def empty : StringMap α :=
  ⟨[], List.nodup_nil⟩

/-- `std::map::find`: the value stored under `key`, if any. -/
def find? (map : StringMap α) (key : String) : Option α :=
  lookupEntry key map.entries

/-- `std::map::size`. -/
def size (map : StringMap α) : Nat :=
  map.entries.length

/-- `map[key] = value`. -/
def assign (map : StringMap α) (key : String) (value : α) : StringMap α :=
  ⟨assignEntry key value map.entries,
    nodup_entryKeys_assignEntry map.keysNodup⟩

/-- `std::map::erase(key)`. -/
def erase (map : StringMap α) (key : String) : StringMap α :=
  ⟨eraseEntry key map.entries,
    map.keysNodup.sublist ((eraseEntry_sublist key map.entries).map _)⟩

/--
`map[key]` used as a value: the stored value, or a value-initialized `α`
(`fallback`) that `operator[]` also inserts under `key`.
-/
def subscript (map : StringMap α) (key : String) (fallback : α) :
    α × StringMap α :=
  match map.find? key with
  | some value => (value, map)
  | none => (fallback, map.assign key fallback)

@[simp] theorem find?_empty (key : String) :
    (empty : StringMap α).find? key = none :=
  rfl

/-- Looking up after an assignment. -/
@[simp] theorem find?_assign
    (map : StringMap α) (key other : String) (value : α) :
    (map.assign key value).find? other =
      if other = key then some value else map.find? other :=
  lookupEntry_assignEntry key other value map.entries

/-- Looking up after an erasure. -/
@[simp] theorem find?_erase
    (map : StringMap α) (key other : String) :
    (map.erase key).find? other =
      if other = key then none else map.find? other :=
  lookupEntry_eraseEntry key other map.entries

/-- The value `operator[]` reads. -/
theorem subscript_fst
    (map : StringMap α) (key : String) (fallback : α) :
    (map.subscript key fallback).1 = (map.find? key).getD fallback := by
  unfold subscript
  split <;> simp_all

/-- `operator[]` on a present key leaves the map unchanged. -/
theorem subscript_of_find?
    {map : StringMap α} {key : String} {fallback value : α}
    (found : map.find? key = some value) :
    map.subscript key fallback = (value, map) := by
  simp [subscript, found]

/-- Assigning an absent key adds one entry. -/
theorem size_assign_of_find?_eq_none
    {map : StringMap α} {key : String} (value : α)
    (absent : map.find? key = none) :
    (map.assign key value).size = map.size + 1 :=
  length_assignEntry_of_lookupEntry value absent

end StringMap

end MediasoupClient
