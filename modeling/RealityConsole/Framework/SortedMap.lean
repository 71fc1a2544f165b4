import Mathlib.Data.List.Basic

/-!
# Finite maps in key order

A map as the list of its entries, in the order in which an ordered map is
iterated. Reading takes the first entry of a key; storing replaces the entry of
the key or puts a new one in its place.
-/

namespace RealityConsole.Framework

universe u v

/-- The entries of a map, in the order of their keys. -/
abbrev SortedMap (κ : Type u) (α : Type v) := List (κ × α)

namespace SortedMap

variable {κ : Type u} {α : Type v} [DecidableEq κ]

def lookup (key : κ) : SortedMap κ α → Option α
  | [] => none
  | (k, value) :: rest => if key = k then some value else lookup key rest

def hasKey (map : SortedMap κ α) (key : κ) : Bool := (map.lookup key).isSome

/-- The map without the keys that fail the test. -/
def retain (keep : κ → Bool) (map : SortedMap κ α) : SortedMap κ α :=
  map.filter fun entry => keep entry.1

def remove (key : κ) (map : SortedMap κ α) : SortedMap κ α := map.retain fun k => k ≠ key

/-- The map without the entries that fail the test. -/
def retainEntries (keep : κ → α → Bool) (map : SortedMap κ α) : SortedMap κ α :=
  map.retain fun key => (map.lookup key).any (keep key)

def mapValues (f : κ → α → α) (map : SortedMap κ α) : SortedMap κ α :=
  map.map fun entry => (entry.1, f entry.1 entry.2)

theorem mem_of_lookup {map : SortedMap κ α} {key : κ} {value : α}
    (h : map.lookup key = some value) : (key, value) ∈ map := by
  induction map with
  | nil => cases h
  | cons first rest ih =>
    obtain ⟨k, old⟩ := first
    unfold lookup at h
    by_cases hkey : key = k
    · rw [if_pos hkey] at h
      cases h
      rw [hkey]
      exact .head _
    · rw [if_neg hkey] at h
      exact .tail _ (ih h)

theorem lookup_retain (keep : κ → Bool) (key : κ) (map : SortedMap κ α) :
    (map.retain keep).lookup key = if keep key then map.lookup key else none := by
  induction map with
  | nil => exact (ite_self none).symm
  | cons first rest ih =>
    obtain ⟨k, old⟩ := first
    unfold retain at ih ⊢
    rw [List.filter_cons]
    by_cases hkeep : keep k = true
    · rw [if_pos hkeep]
      by_cases hkey : key = k
      · subst hkey
        simp [lookup, hkeep]
      · simp [lookup, hkey, ih]
    · rw [if_neg hkeep, ih]
      by_cases hkey : key = k
      · subst hkey
        rw [if_neg hkeep, if_neg hkeep]
      · simp [lookup, hkey]

theorem lookup_retainEntries (keep : κ → α → Bool) (key : κ) (map : SortedMap κ α) :
    (map.retainEntries keep).lookup key = (map.lookup key).filter (keep key) := by
  unfold retainEntries
  rw [lookup_retain]
  cases map.lookup key with
  | none => simp
  | some value => simp [Option.filter]

theorem lookup_mapValues (f : κ → α → α) (key : κ) (map : SortedMap κ α) :
    (map.mapValues f).lookup key = (map.lookup key).map (f key) := by
  induction map with
  | nil => rfl
  | cons first rest ih =>
    obtain ⟨k, old⟩ := first
    unfold mapValues at ih ⊢
    rw [List.map_cons]
    by_cases hkey : key = k
    · subst hkey
      simp [lookup]
    · simp [lookup, hkey, ih]

theorem lookup_remove (key other : κ) (map : SortedMap κ α) :
    (map.remove other).lookup key = if key = other then none else map.lookup key := by
  unfold remove
  rw [lookup_retain]
  by_cases hkey : key = other
  · simp [hkey]
  · simp [hkey]

variable [LT κ] [DecidableLT κ]

def store (key : κ) (value : α) : SortedMap κ α → SortedMap κ α
  | [] => [(key, value)]
  | (k, old) :: rest =>
    if key = k then (key, value) :: rest
    else if key < k then (key, value) :: (k, old) :: rest
    else (k, old) :: store key value rest

/-- The map of a list of entries; a later entry of a key replaces an earlier one. -/
def collect (entries : List (κ × α)) : SortedMap κ α :=
  entries.foldl (fun map entry => map.store entry.1 entry.2) []

theorem lookup_store (key other : κ) (value : α) (map : SortedMap κ α) :
    (map.store other value).lookup key = if key = other then some value else map.lookup key := by
  induction map with
  | nil => rfl
  | cons first rest ih =>
    obtain ⟨k, old⟩ := first
    unfold store
    by_cases hkey : other = k
    · subst hkey
      rw [if_pos rfl]
      by_cases hsame : key = other
      · simp [lookup, hsame]
      · simp [lookup, hsame]
    · rw [if_neg hkey]
      by_cases hlt : other < k
      · rw [if_pos hlt]
        rfl
      rw [if_neg hlt]
      unfold lookup
      by_cases hsame : key = k
      · subst hsame
        rw [if_pos rfl, if_pos rfl, if_neg (Ne.symm hkey)]
      · rw [if_neg hsame, if_neg hsame, ih]

/-! ### The order of the keys -/

/-- Each key is smaller than those after it. -/
def Sorted (map : SortedMap κ α) : Prop := map.Pairwise fun a b => a.1 < b.1

variable {map : SortedMap κ α} {key : κ} {value : α}

theorem mem_of_mem_store {entry : κ × α} (h : entry ∈ map.store key value) :
    entry = (key, value) ∨ entry ∈ map := by
  induction map with
  | nil => exact .inl (List.mem_singleton.1 h)
  | cons first rest ih =>
    unfold store at h
    split at h
    · exact (List.mem_cons.1 h).imp_right (.tail _)
    split at h
    · exact List.mem_cons.1 h
    rcases List.mem_cons.1 h with rfl | hrest
    · exact .inr (.head _)
    · exact (ih hrest).imp_right (.tail _)

theorem length_store_le (map : SortedMap κ α) : (map.store key value).length ≤ map.length + 1 := by
  induction map with
  | nil => exact Nat.le_refl _
  | cons first rest ih =>
    unfold store
    split
    · exact Nat.le_succ _
    split
    · exact Nat.le_refl _
    · exact Nat.succ_le_succ ih

variable [IsStrictTotalOrder κ (· < ·)]

theorem Sorted.store (h : map.Sorted) (key : κ) (value : α) : (map.store key value).Sorted := by
  induction map with
  | nil => exact List.pairwise_singleton _ _
  | cons first rest ih =>
    obtain ⟨hfirst, hrest⟩ := List.pairwise_cons.1 h
    unfold SortedMap.store
    split
    · rename_i hkey
      subst hkey
      exact List.pairwise_cons.2 ⟨hfirst, hrest⟩
    rename_i hne
    split
    · rename_i hlt
      refine List.pairwise_cons.2 ⟨fun entry hmem => ?_, h⟩
      rcases List.mem_cons.1 hmem with rfl | hlater
      · exact hlt
      · exact trans_of (· < ·) hlt (hfirst entry hlater)
    · rename_i hnotLess
      refine List.pairwise_cons.2 ⟨fun entry hmem => ?_, ih hrest⟩
      rcases mem_of_mem_store hmem with rfl | hlater
      · exact (trichotomous_of (· < ·) _ _).resolve_right fun h => h.elim (hne ∘ Eq.symm) hnotLess
      · exact hfirst entry hlater

theorem Sorted.length_store (h : map.Sorted) (hkey : map.lookup key = some value) (new : α) :
    (map.store key new).length = map.length := by
  induction map with
  | nil => cases hkey
  | cons first rest ih =>
    obtain ⟨hfirst, hrest⟩ := List.pairwise_cons.1 h
    unfold SortedMap.store
    unfold lookup at hkey
    split
    · rfl
    rename_i hne
    rw [if_neg hne] at hkey
    -- the key comes later, so it is not smaller than the first
    rw [if_neg (asymm_of (· < ·) (hfirst _ (mem_of_lookup hkey))), List.length_cons, ih hrest hkey]
    rfl

end SortedMap

end RealityConsole.Framework
