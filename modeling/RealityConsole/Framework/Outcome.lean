import Mathlib.Order.Bounds.Basic
import Mathlib.Data.List.Forall2
import Mathlib.Data.Set.Insert

/-!
# Checked computations, seen keys and maximum cursors

Small tools that every layer uses: inversion of a checked computation that succeeded, a loop that
remembers the keys it has seen, and optional cursors that hold the greatest element of a set.
-/

namespace RealityConsole.Framework

universe u v w

def refuseWhen {ε : Type u} (condition : Prop) [Decidable condition] (error : ε) :
    Except ε Unit :=
  if condition then .error error else .ok ()

@[simp] theorem refuse_ok {ε : Type u} {condition : Prop} [Decidable condition] {error : ε}
    {u : Unit} : refuseWhen condition error = .ok u ↔ ¬condition := by
  unfold refuseWhen
  split <;> simp_all

def required {ε : Type u} {α : Type v} (value : Option α) (error : ε) : Except ε α :=
  match value with
  | some a => .ok a
  | none => .error error

@[simp] theorem required_ok {ε : Type u} {α : Type v} {value : Option α} {error : ε} {a : α} :
    required value error = .ok a ↔ value = some a := by cases value <;> simp [required]

section

variable {ε : Type u} {α β : Type v} {x : Except ε α} {f : α → Except ε β} {b : β}

/-- A sequence of checks succeeds exactly if its first part does and the rest succeeds on what that
returned. -/
theorem bind_ok : (x >>= f) = .ok b ↔ ∃ a, x = .ok a ∧ f a = .ok b := by
  cases x with
  | error e => simp [bind, Except.bind]
  | ok a => simp [bind, Except.bind]

/-- What comes after a part whose result is of no interest. -/
theorem rest_ok (h : (x >>= f) = .ok b) : ∃ a, f a = .ok b := by
  obtain ⟨a, -, hrest⟩ := bind_ok.1 h
  exact ⟨a, hrest⟩

/-- A sequence of checks fails where its first part does, or the rest. -/
theorem bind_eq_error {e : ε} :
    (x >>= f) = .error e ↔ x = .error e ∨ ∃ a, x = .ok a ∧ f a = .error e := by
  cases x with
  | error error => simp [bind, Except.bind]
  | ok a => simp [bind, Except.bind]

@[simp] theorem ok_bind (a : α) (f : α → Except ε β) : (Except.ok a >>= f) = f a := rfl

end

theorem check_ok {ε : Type u} {β : Type} {x : Except ε Unit} {f : Unit → Except ε β} {b : β} :
    (x >>= f) = .ok b ↔ x = .ok () ∧ f () = .ok b := by
  rw [bind_ok]
  exact ⟨fun ⟨_, hx, hf⟩ => ⟨hx, hf⟩, fun ⟨hx, hf⟩ => ⟨(), hx, hf⟩⟩

theorem except_map_ok {ε : Type u} {α : Type v} {β : Type w} {x : Except ε α} {f : α → β}
    {b : β} : x.map f = .ok b ↔ ∃ a, x = .ok a ∧ f a = b := by cases x <;> simp [Except.map]

/-- Translating the error of a check keeps its result. -/
theorem mapError_ok {ε : Type u} {ε' : Type v} {α : Type w} {x : Except ε α} {f : ε → ε'}
    {a : α} : x.mapError f = .ok a ↔ x = .ok a := by cases x <;> simp [Except.mapError]

theorem toOption_some {ε : Type u} {α : Type v} {x : Except ε α} {a : α} :
    x.toOption = some a ↔ x = .ok a := by cases x <;> simp [Except.toOption]

/-- A computation over a list succeeds with the results of its elements. -/
theorem mapM_ok {ε : Type u} {α : Type v} {β : Type w} {f : α → Except ε β} {xs : List α}
    {ys : List β} : xs.mapM f = .ok ys ↔ List.Forall₂ (fun x y => f x = .ok y) xs ys := by
  induction xs generalizing ys with
  | nil =>
    cases ys with
    | nil => simp [pure, Except.pure]
    | cons y ys => simp [pure, Except.pure]
  | cons x xs ih =>
    simp only [List.mapM_cons, bind_ok, ih, List.forall₂_cons_left_iff, pure, Except.pure,
      Except.ok.injEq]
    constructor
    · rintro ⟨y, hy, ys', hys', rfl⟩
      exact ⟨y, ys', hy, hys', rfl⟩
    · rintro ⟨y, ys', hy, hys', rfl⟩
      exact ⟨y, hy, ys', hys', rfl⟩

theorem exists_mapM_ok {ε : Type u} {α : Type v} {β : Type w} {f : α → Except ε β}
    {xs : List α} : (∃ ys, xs.mapM f = .ok ys) ↔ ∀ x ∈ xs, ∃ y, f x = .ok y := by
  simp only [mapM_ok]
  induction xs with
  | nil => simp
  | cons x xs ih =>
    rw [List.forall_mem_cons, ← ih]
    constructor
    · rintro ⟨_, hcons⟩
      obtain ⟨y, ys, hy, hys, rfl⟩ := List.forall₂_cons_left_iff.1 hcons
      exact ⟨⟨y, hy⟩, ys, hys⟩
    · rintro ⟨⟨y, hy⟩, ys, hys⟩
      exact ⟨y :: ys, .cons hy hys⟩

/-! ### Keys seen so far -/

/-- A loop that keeps the keys it has seen meets each key of `keys` for the first time. -/
def Unseen {α : Type u} (seen keys : List α) : Prop :=
  keys.Nodup ∧ ∀ k ∈ keys, k ∉ seen

@[simp] theorem unseen_nil {α : Type u} (seen : List α) : Unseen seen [] := by simp [Unseen]

@[simp] theorem unseen_nil_left {α : Type u} {keys : List α} : Unseen [] keys ↔ keys.Nodup := by
  simp [Unseen]

theorem unseen_cons {α : Type u} {seen keys : List α} {k : α} :
    Unseen seen (k :: keys) ↔ k ∉ seen ∧ Unseen (k :: seen) keys := by
  simp only [Unseen, List.nodup_cons, List.mem_cons, forall_eq_or_imp, not_or]
  constructor
  · rintro ⟨⟨hk, hnd⟩, hnew, hold⟩
    exact ⟨hnew, hnd, fun x hx => ⟨fun heq => hk (heq ▸ hx), hold x hx⟩⟩
  · rintro ⟨hnew, hnd, hrest⟩
    exact ⟨⟨fun hk => (hrest k hk).1 rfl, hnd⟩, hnew, fun x hx => (hrest x hx).2⟩

/-! ### Maximum cursors -/

/-- The cursor holds the greatest element of the set, and `none` if there is none. -/
def IsMaxOf (cursor : Option Nat) (S : Set Nat) : Prop :=
  match cursor with
  | none => S = ∅
  | some m => IsGreatest S m

@[simp] theorem isMaxOf_none {S : Set Nat} : IsMaxOf none S ↔ S = ∅ := Iff.rfl

@[simp] theorem isMaxOf_some {S : Set Nat} {m : Nat} : IsMaxOf (some m) S ↔ IsGreatest S m :=
  Iff.rfl

theorem IsMaxOf.unique {S : Set Nat} {a b : Option Nat} (ha : IsMaxOf a S) (hb : IsMaxOf b S) :
    a = b := by
  cases a with
  | none =>
    cases b with
    | none => rfl
    | some m => exact absurd hb.1 (by rw [isMaxOf_none.1 ha]; exact Set.notMem_empty m)
  | some m =>
    cases b with
    | none => exact absurd ha.1 (by rw [isMaxOf_none.1 hb]; exact Set.notMem_empty m)
    | some n => exact congrArg some (IsGreatest.unique ha hb)

theorem IsMaxOf.advance {S : Set Nat} {cursor : Option Nat} (h : IsMaxOf cursor S) (r : Nat) :
    IsMaxOf (some (max (cursor.getD 0) r)) (insert r S) := by
  cases cursor with
  | none =>
    rw [isMaxOf_none] at h
    subst h
    simp [IsGreatest, upperBounds]
  | some m => simpa [max_comm] using IsGreatest.insert r h

/-- The maximum over the rows of a query. -/
theorem isMaxOf_max? (l : List Nat) : IsMaxOf l.max? {r | r ∈ l} := by
  cases hl : l.max? with
  | none => simp [List.max?_eq_none_iff.1 hl]
  | some m =>
    obtain ⟨hmem, hle⟩ := List.max?_eq_some_iff.1 hl
    exact ⟨hmem, fun r hr => hle r hr⟩

end RealityConsole.Framework
