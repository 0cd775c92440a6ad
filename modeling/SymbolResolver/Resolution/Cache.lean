import SymbolResolver.Lazy.Store
import SymbolResolver.Source.File

/-!
# Caches of resolutions

A cache maps requests to cells. The first request for a key makes its cell, and every later one
shares it until the entry is removed. Failures are kept like answers, and a cell whose entry has
been removed stays with those who already wait for it.
-/

namespace SymbolResolver

namespace Resolution

open Lazy

/-- What tells requests apart: the file, the text they began with, its language and its node. A
request from a node also asks the semantic bindings, so the node belongs to the key. -/
structure CacheKey where
  /-- The file. -/
  file : FileId
  /-- The text at the beginning. -/
  text : String
  /-- The language. -/
  language : Language
  /-- The node, if there is one. -/
  node : Option NodeId
deriving DecidableEq, Repr

/-- The cells of requests, each key once. -/
structure Cache where
  /-- The entries. -/
  entries : List (CacheKey × Nat)
deriving Repr

namespace Cache

variable {ε ν : Type}

/-- The cache without entries. -/
def empty : Cache := ⟨[]⟩

/-- The cell of a key. -/
def cell? (cache : Cache) (key : CacheKey) : Option Nat := cache.entries.lookup key

/-- The cell of a key. If there is none yet, it is made for the given computation. -/
def request (cache : Cache) (store : Store ε ν) (key : CacheKey)
    (work : Computation ε ν (Outcome ν)) (needed : List Nat) : Nat × Cache × Store ε ν :=
  match cache.cell? key with
  | some cell => (cell, cache, store)
  | none =>
    let (cell, store) := store.defer work needed
    (cell, ⟨(key, cell) :: cache.entries⟩, store)

theorem request_of_found {cache : Cache} {key : CacheKey} {cell : Nat}
    (found : cache.cell? key = some cell) (store : Store ε ν) (work : Computation ε ν (Outcome ν))
    (needed : List Nat) : cache.request store key work needed = (cell, cache, store) := by
  simp [request, found]

theorem request_of_absent {cache : Cache} {key : CacheKey} (absent : cache.cell? key = none)
    (store : Store ε ν) (work : Computation ε ν (Outcome ν)) (needed : List Nat) :
    cache.request store key work needed =
      (store.size, ⟨(key, store.size) :: cache.entries⟩, (store.defer work needed).2) := by
  simp [request, absent, Store.defer, Store.allocate]

/-- The outcome of a key, if its computation has come to an end. -/
def peek? (cache : Cache) (store : Store ε ν) (key : CacheKey) : Option (Outcome ν) :=
  (cache.cell? key).bind store.outcome?

/-- Removes the entries of a file. -/
def invalidate (cache : Cache) (file : FileId) : Cache :=
  ⟨cache.entries.filter fun entry => entry.1.file != file⟩

/-- The number of entries. -/
def size (cache : Cache) : Nat := cache.entries.length

/-- How many entries the removal of a file takes away. -/
def countOf (cache : Cache) (file : FileId) : Nat := cache.size - (cache.invalidate file).size

/-- The cells that a cache holds. -/
def cells (cache : Cache) : List Nat := cache.entries.map (·.2)

/-- The keys that have an entry. -/
def keys (cache : Cache) : List CacheKey := cache.entries.map (·.1)

@[simp] theorem cell?_empty (key : CacheKey) : empty.cell? key = none := rfl

theorem mem_keys_iff {cache : Cache} {key : CacheKey} :
    key ∈ cache.keys ↔ ∃ cell, cache.cell? key = some cell := by
  rw [← Option.isSome_iff_exists, cell?, List.lookup_isSome_iff, keys, List.mem_map]
  constructor
  · rintro ⟨entry, member, rfl⟩
    exact ⟨entry, member, beq_self_eq_true _⟩
  · rintro ⟨entry, member, same⟩
    exact ⟨entry, member, (beq_iff_eq.mp same).symm⟩

/-- A new entry is the one of its key. -/
theorem cell?_cons (cache : Cache) (key other : CacheKey) (cell : Nat) :
    cell? ⟨(key, cell) :: cache.entries⟩ other =
      if other = key then some cell else cache.cell? other := by
  by_cases same : other = key
  · simp [cell?, same]
  · simp [cell?, same, List.lookup_cons, beq_eq_false_iff_ne.mpr same]

/-- Only the entries of the file are removed. -/
theorem cell?_invalidate (cache : Cache) (file : FileId) (key : CacheKey) :
    (cache.invalidate file).cell? key = if key.file = file then none else cache.cell? key := by
  obtain ⟨entries⟩ := cache
  simp only [invalidate, cell?]
  induction entries with
  | nil => simp
  | cons entry entries ih =>
      obtain ⟨first, cell⟩ := entry
      by_cases removed : first.file = file
      · have different : key.file ≠ file → (key == first) = false := by
          intro other
          simpa using fun same : key = first => other (same ▸ removed)
        by_cases same_file : key.file = file
        · simpa [removed, same_file] using ih
        · simpa [removed, same_file, List.lookup_cons, different same_file] using ih
      · by_cases same : key = first
        · subst same
          simp [removed]
        · have other : (key == first) = false := beq_eq_false_iff_ne.mpr same
          simpa [removed, List.lookup_cons, other] using ih

/-- The removal of a file takes away the entries whose key has it. -/
theorem countOf_eq (cache : Cache) (file : FileId) :
    cache.countOf file = cache.keys.countP fun key => key.file == file := by
  have parts := List.length_eq_countP_add_countP
    (fun entry : CacheKey × Nat => entry.1.file == file) (l := cache.entries)
  have kept : (cache.invalidate file).size =
      cache.entries.countP fun entry => decide ¬(entry.1.file == file) = true := by
    rw [size, invalidate, List.countP_eq_length_filter]
    refine congrArg List.length (List.filter_congr fun entry _ => ?_)
    cases same : entry.1.file == file <;> simp [bne, same]
  have removed : (cache.keys.countP fun key => key.file == file) =
      cache.entries.countP fun entry => entry.1.file == file := by
    rw [keys, List.countP_map]
    rfl
  rw [countOf, size, kept, removed, parts]
  omega

end Cache

end Resolution

end SymbolResolver
