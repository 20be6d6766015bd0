import Mathlib.Data.List.FinRange

/-!
# Positions that are checked

A program that works with numbered positions can go wrong in three ways: it looks where there
is no entry, it takes more from a count than there is, or it relies on a condition that does
not hold. Here each of these ends in a fault. The lemmas say where none occurs.
-/

namespace LinearProgramming

/-- What can go wrong with positions. -/
inductive Fault where
  | position
  | difference
  | assertion
  deriving DecidableEq, Repr

namespace Checked

variable {α β γ : Type}

/-- The entry at a position, which has to exist. -/
def get (l : List α) (i : Nat) : Except Fault α :=
  match l[i]? with
  | some a => .ok a
  | none => .error .position

/-- The list with another entry at a position, which has to exist. -/
def set (l : List α) (i : Nat) (a : α) : Except Fault (List α) :=
  if i < l.length then .ok (l.set i a) else .error .position

/-- What is left of a count, from which no more may be taken than there is. -/
def sub (a b : Nat) : Except Fault Nat := if b ≤ a then .ok (a - b) else .error .difference

/-- A condition that has to hold. -/
def require (condition : Prop) [Decidable condition] : Except Fault Unit :=
  if condition then .ok () else .error .assertion

@[simp] theorem ok_bind (a : α) (f : α → Except Fault β) : (Except.ok a >>= f) = f a := rfl

theorem get_of_getElem? {l : List α} {i : Nat} {a : α} (h : l[i]? = some a) :
    get l i = .ok a := by
  rw [get, h]

theorem get_map_finRange {n : Nat} (f : Fin n → α) (i : Fin n) :
    get ((List.finRange n).map f) i = .ok (f i) :=
  get_of_getElem? (by simp)

theorem set_of_lt {l : List α} {i : Nat} (h : i < l.length) (a : α) :
    set l i a = .ok (l.set i a) := if_pos h

theorem sub_of_le {a b : Nat} (h : b ≤ a) : sub a b = .ok (a - b) := if_pos h

theorem require_of {condition : Prop} [Decidable condition] (h : condition) :
    require condition = .ok () := if_pos h

/-- What succeeds for every entry succeeds for the list. -/
theorem mapM_map_eq_ok {g : α → β} {f : β → Except Fault γ} {k : α → γ} {l : List α}
    (h : ∀ a ∈ l, f (g a) = .ok (k a)) : (l.map g).mapM f = .ok (l.map k) := by
  induction l with
  | nil => rfl
  | cons a l ih =>
    rw [List.map_cons, List.mapM_cons, h a List.mem_cons_self, ok_bind,
      ih fun b hb => h b (List.mem_cons_of_mem _ hb)]
    rfl

/-- A fold whose steps succeed, each with the view of the next state, is a view of a fold. -/
theorem foldlM_map_eq_ok {σ τ : Type} {view : σ → τ} {g : α → β} {f : τ → β → Except Fault τ}
    {next : σ → α → σ} (h : ∀ s a, f (view s) (g a) = .ok (view (next s a))) (l : List α) (s : σ) :
    (l.map g).foldlM f (view s) = .ok (view (l.foldl next s)) := by
  induction l generalizing s with
  | nil => rfl
  | cons a l ih => rw [List.map_cons, List.foldlM_cons, h, ok_bind, ih, List.foldl_cons]

/-- Values that are put in places that exist find them. -/
theorem foldlM_set_eq_ok {n : Nat} {entries : List (Nat × α)} (h : ∀ e ∈ entries, e.1 < n)
    {point : List α} (hpoint : point.length = n) :
    entries.foldlM (fun point e => set point e.1 e.2) point =
      .ok (entries.foldl (fun point e => point.set e.1 e.2) point) := by
  induction entries generalizing point with
  | nil => rfl
  | cons e entries ih =>
    have he := List.forall_mem_cons.mp h
    rw [List.foldlM_cons, set_of_lt (by rw [hpoint]; exact he.1), ok_bind,
      ih he.2 (by rwa [List.length_set]), List.foldl_cons]

theorem map_val_finRange (n : Nat) : (List.finRange n).map Fin.val = List.range n :=
  List.ext_getElem (by simp) (by simp)

theorem mapM_range_eq_ok {n : Nat} {f : Nat → Except Fault γ} {k : Fin n → γ}
    (h : ∀ i : Fin n, f i = .ok (k i)) :
    (List.range n).mapM f = .ok ((List.finRange n).map k) := by
  rw [← map_val_finRange]
  exact mapM_map_eq_ok fun i _ => h i

end Checked

end LinearProgramming
