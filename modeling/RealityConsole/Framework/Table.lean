import Mathlib.Data.List.Basic

/-!
# Database tables

A table with a primary key, as the list of its rows. A row is added under a key
that the table does not hold yet, and an update maps every row; reading after
either is given by one equation.
-/

namespace RealityConsole.Framework

universe u v

/-- The rows of a table, each with its primary key. -/
abbrev Table (κ : Type u) (ρ : Type v) := List (κ × ρ)

namespace Table

variable {κ : Type u} {ρ : Type v}

def insert (key : κ) (row : ρ) (table : Table κ ρ) : Table κ ρ := (key, row) :: table

def update (f : κ → ρ → ρ) (table : Table κ ρ) : Table κ ρ :=
  table.map fun entry => (entry.1, f entry.1 entry.2)

def count (p : κ → ρ → Bool) (table : Table κ ρ) : Nat :=
  table.countP fun entry => p entry.1 entry.2

variable [DecidableEq κ]

def find (key : κ) : Table κ ρ → Option ρ
  | [] => none
  | (k, row) :: rest => if key = k then some row else find key rest

def updateAt (key : κ) (f : ρ → ρ) (table : Table κ ρ) : Table κ ρ :=
  table.update fun k row => if k = key then f row else row

@[simp] theorem find_nil (key : κ) : find key ([] : Table κ ρ) = none := rfl

theorem find_insert (key other : κ) (row : ρ) (table : Table κ ρ) :
    (table.insert other row).find key = if key = other then some row else table.find key := rfl

theorem find_insert_cases {table : Table κ ρ} {key other : κ} {row new : ρ}
    (h : (table.insert other new).find key = some row) :
    key = other ∧ new = row ∨ table.find key = some row := by
  rw [find_insert] at h
  split at h
  · exact .inl ⟨by assumption, Option.some.inj h⟩
  · exact .inr h

/-- A row under a fresh key hides no other row. -/
theorem find_insert_of_find {table : Table κ ρ} {key other : κ} {row new : ρ}
    (hfresh : table.find other = none) (h : table.find key = some row) :
    (table.insert other new).find key = some row := by
  rw [find_insert, if_neg, h]
  intro hkey
  rw [hkey, hfresh] at h
  cases h

theorem find_update (key : κ) (f : κ → ρ → ρ) (table : Table κ ρ) :
    (table.update f).find key = (table.find key).map (f key) := by
  induction table with
  | nil => rfl
  | cons first rest ih =>
    obtain ⟨k, row⟩ := first
    show (if key = k then some (f k row) else find key (update f rest)) = _
    by_cases hkey : key = k
    · subst hkey
      simp [find]
    · rw [if_neg hkey, ih]
      simp [find, hkey]

theorem find_updateAt (key other : κ) (f : ρ → ρ) (table : Table κ ρ) :
    (table.updateAt other f).find key
      = if key = other then (table.find key).map f else table.find key := by
  unfold updateAt
  rw [find_update]
  by_cases hkey : key = other
  · simp only [if_pos hkey]
  · simp only [if_neg hkey, Option.map_id']

theorem mem_of_find {table : Table κ ρ} {key : κ} {row : ρ} (h : table.find key = some row) :
    (key, row) ∈ table := by
  induction table with
  | nil => cases h
  | cons first rest ih =>
    obtain ⟨k, r⟩ := first
    replace h : (if key = k then some r else find key rest) = some row := h
    by_cases hkey : key = k
    · rw [if_pos hkey] at h
      cases h
      rw [hkey]
      exact .head _
    · rw [if_neg hkey] at h
      exact .tail _ (ih h)

/-- Deleting other rows keeps a row that is found. -/
theorem find_filter_of_find {table : Table κ ρ} {key : κ} {row : ρ} {p : κ × ρ → Bool}
    (h : table.find key = some row) (hkeep : p (key, row)) :
    find key (table.filter p) = some row := by
  induction table with
  | nil => cases h
  | cons first rest ih =>
    obtain ⟨k, r⟩ := first
    replace h : (if key = k then some r else find key rest) = some row := h
    by_cases hkey : key = k
    · subst hkey
      rw [if_pos rfl] at h
      cases h
      rw [List.filter_cons_of_pos hkeep]
      exact if_pos rfl
    · rw [if_neg hkey] at h
      rw [List.filter_cons]
      split
      · exact (if_neg hkey).trans (ih h)
      · exact ih h

end Table

/-! ### Tables with one row for each key -/

namespace Table

variable {κ : Type u} {ρ : Type v}

/-- The primary key is unique. -/
def Keyed (table : Table κ ρ) : Prop := (table.map Prod.fst).Nodup

theorem keyed_nil : Keyed ([] : Table κ ρ) := List.nodup_nil

theorem update_self (table : Table κ ρ) : (table.update fun _ row => row) = table := by
  simp [update]

theorem update_update (f g : κ → ρ → ρ) (table : Table κ ρ) :
    (table.update f).update g = table.update fun key row => g key (f key row) := by simp [update]

variable {table : Table κ ρ}

theorem update_congr {f g : κ → ρ → ρ}
    (h : ∀ entry ∈ table, f entry.1 entry.2 = g entry.1 entry.2) :
    table.update f = table.update g := by
  apply List.map_congr_left
  intro entry hent
  rw [h entry hent]

theorem keyed_update {f : κ → ρ → ρ} : (table.update f).Keyed ↔ table.Keyed := by
  have hkeys : (table.update f).map Prod.fst = table.map Prod.fst := by simp [update]
  unfold Keyed
  rw [hkeys]

variable [DecidableEq κ]

theorem find_eq_none_iff {key : κ} : table.find key = none ↔ key ∉ table.map Prod.fst := by
  induction table with
  | nil => simp
  | cons first rest ih =>
    obtain ⟨k, r⟩ := first
    show (if key = k then some r else find key rest) = none ↔ _
    by_cases hkey : key = k
    · simp [hkey]
    · simp [hkey, ih]

theorem keyed_insert {key : κ} {row : ρ} (h : table.Keyed)
    (hfresh : table.find key = none) : (table.insert key row).Keyed :=
  List.nodup_cons.2 ⟨find_eq_none_iff.1 hfresh, h⟩

theorem Keyed.find_eq_some_iff (h : table.Keyed) {key : κ} {row : ρ} :
    table.find key = some row ↔ (key, row) ∈ table := by
  refine ⟨mem_of_find, fun hmem => ?_⟩
  induction table with
  | nil => cases hmem
  | cons first rest ih =>
    obtain ⟨k, r⟩ := first
    obtain ⟨hnew, hrest⟩ := List.nodup_cons.1 h
    show (if key = k then some r else find key rest) = some row
    rcases List.mem_cons.1 hmem with heq | htail
    · cases heq
      rw [if_pos rfl]
    have hne : key ≠ k := by
      intro hkey
      exact hnew (List.mem_map.2 ⟨(key, row), htail, hkey⟩)
    rw [if_neg hne]
    exact ih hrest htail

end Table

end RealityConsole.Framework
