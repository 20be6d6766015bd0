import Mathlib.Data.List.Forall2

/-!
# Results of operations that can fail

An operation that works on the result of another one, or on its error, succeeds exactly if
that one does. What is done for one element of a list after the other fails at the first
element for which it fails.
-/

namespace LinearProgramming

universe u v w

variable {ε : Type u} {α : Type v} {β : Type w}

theorem map_eq_ok_iff {f : α → β} {x : Except ε α} {b : β} :
    x.map f = .ok b ↔ ∃ a, x = .ok a ∧ f a = b := by
  constructor
  · intro h
    cases x with
    | error failure => cases h
    | ok a =>
      cases h
      exact ⟨a, rfl, rfl⟩
  · rintro ⟨a, rfl, rfl⟩
    rfl

theorem exists_of_map_eq_ok {f : α → β} {x : Except ε α} {b : β} (h : x.map f = .ok b) :
    ∃ a, x = .ok a ∧ f a = b :=
  map_eq_ok_iff.mp h

theorem map_map {γ : Type w} {f : α → β} {g : β → γ} (x : Except ε α) :
    (x.map f).map g = x.map fun a => g (f a) := by
  cases x <;> rfl

/-- What one view of a result shows, a coarser view shows as well. -/
theorem map_eq_map_of_view {f : α → β} {γ : Type w} {g : α → γ} {x y : Except ε α}
    (h : x.map f = y.map f) (hview : ∀ a b, f a = f b → g a = g b) : x.map g = y.map g := by
  cases x with
  | error failure =>
    cases y with
    | error failure' =>
      cases h
      rfl
    | ok b => cases h
  | ok a =>
    cases y with
    | error failure => cases h
    | ok b => exact congrArg Except.ok (hview a b (Except.ok.inj h))

theorem map_eq_error_iff {f : α → β} {x : Except ε α} {e : ε} :
    x.map f = .error e ↔ x = .error e := by
  cases x with
  | error failure =>
    exact ⟨fun h => congrArg _ (Except.error.inj h), fun h => congrArg _ (Except.error.inj h)⟩
  | ok a => exact ⟨nofun, nofun⟩

theorem mapError_eq_error_iff {f : ε → β} {x : Except ε α} {e : β} :
    x.mapError f = .error e ↔ ∃ failure, x = .error failure ∧ f failure = e := by
  cases x with
  | error failure => simp [Except.mapError]
  | ok a => exact ⟨nofun, nofun⟩

theorem mapError_eq_ok_iff {f : ε → β} {x : Except ε α} {a : α} :
    x.mapError f = .ok a ↔ x = .ok a := by
  cases x with
  | error failure => exact ⟨nofun, nofun⟩
  | ok b => exact ⟨fun h => congrArg _ (Except.ok.inj h), fun h => congrArg _ (Except.ok.inj h)⟩

/-- Whether a check fails for an element of a list, and for none of those before it. -/
def FirstFailure (check : α → Prop) (l before : List α) (a : α) : Prop :=
  (∃ after, l = before ++ a :: after) ∧ (∀ b ∈ before, check b) ∧ ¬ check a

theorem not_firstFailure_nil {check : α → Prop} {before : List α} {a : α} :
    ¬ FirstFailure check [] before a := by
  rintro ⟨⟨after, h⟩, -⟩
  cases before <;> cases h

theorem firstFailure_cons_iff {check : α → Prop} {b : α} {l before : List α} {a : α} :
    FirstFailure check (b :: l) before a ↔
      ¬ check b ∧ before = [] ∧ a = b ∨
        check b ∧ ∃ rest, before = b :: rest ∧ FirstFailure check l rest a := by
  constructor
  · rintro ⟨⟨after, h⟩, hbefore, ha⟩
    cases before with
    | nil =>
      cases h
      exact .inl ⟨ha, rfl, rfl⟩
    | cons c rest =>
      cases h
      exact .inr ⟨hbefore _ List.mem_cons_self, rest, rfl, ⟨after, rfl⟩,
        fun d hd => hbefore d (List.mem_cons_of_mem _ hd), ha⟩
  · rintro (⟨hb, rfl, rfl⟩ | ⟨hb, rest, rfl, ⟨after, rfl⟩, hrest, ha⟩)
    · exact ⟨⟨l, rfl⟩, by simp, hb⟩
    · exact ⟨⟨after, rfl⟩, List.forall_mem_cons.mpr ⟨hb, hrest⟩, ha⟩

/-- The results of an operation for each element of a list, with the positions of the elements
counted from a given one. -/
def mapPositions (f : Nat → α → Except ε β) : Nat → List α → Except ε (List β)
  | _, [] => .ok []
  | i, a :: l =>
    match f i a with
    | .error e => .error e
    | .ok b => (mapPositions f (i + 1) l).map (b :: ·)

section MapPositions

variable {f : Nat → α → Except ε β} {relates : α → β → Prop}

/-- If the position does not matter for success, the results are those of each element. -/
theorem mapPositions_eq_ok_iff (hf : ∀ i a b, f i a = .ok b ↔ relates a b) {i : Nat} {l : List α}
    {bs : List β} : mapPositions f i l = .ok bs ↔ List.Forall₂ relates l bs := by
  induction l generalizing i bs with
  | nil =>
    rw [List.forall₂_nil_left_iff, eq_comm]
    exact ⟨Except.ok.inj, congrArg _⟩
  | cons a l ih =>
    rw [List.forall₂_cons_left_iff]
    unfold mapPositions
    constructor
    · intro h
      split at h
      case h_1 => cases h
      case h_2 b hb =>
        obtain ⟨rest, hrest, rfl⟩ := exists_of_map_eq_ok h
        exact ⟨b, rest, (hf i a b).mp hb, ih.mp hrest, rfl⟩
    · rintro ⟨b, rest, hb, hrest, rfl⟩
      rw [(hf i a b).mpr hb]
      dsimp only
      rw [ih.mpr hrest]
      rfl

/-- Then the error, if there is one, is that of the first element that fails. -/
theorem mapPositions_eq_error_iff (hf : ∀ i a b, f i a = .ok b ↔ relates a b) {i : Nat}
    {l : List α} {e : ε} : mapPositions f i l = .error e ↔
      ∃ before a, FirstFailure (fun a => ∃ b, relates a b) l before a ∧
        f (i + before.length) a = .error e := by
  induction l generalizing i with
  | nil => simp [mapPositions, not_firstFailure_nil]
  | cons a l ih =>
    unfold mapPositions
    simp only [firstFailure_cons_iff]
    cases ha : f i a with
    | error failure =>
      have hnot : ¬ ∃ b, relates a b := by
        rintro ⟨b, hb⟩
        rw [(hf i a b).mpr hb] at ha
        cases ha
      constructor
      · intro h
        cases h
        exact ⟨[], a, .inl ⟨hnot, rfl, rfl⟩, ha⟩
      · rintro ⟨_, _, ⟨-, rfl, rfl⟩ | ⟨hrelated, -⟩, h⟩
        · cases ha.symm.trans h
          rfl
        · exact absurd hrelated hnot
    | ok b =>
      have hrelated : ∃ b, relates a b := ⟨b, (hf i a b).mp ha⟩
      have hposition (rest : List α) : i + (a :: rest).length = i + 1 + rest.length := by
        rw [List.length_cons, Nat.add_assoc, Nat.add_comm 1]
      dsimp only
      rw [map_eq_error_iff, ih]
      constructor
      · rintro ⟨rest, c, hc, h⟩
        exact ⟨a :: rest, c, .inr ⟨hrelated, rest, rfl, hc⟩, by rwa [hposition]⟩
      · rintro ⟨_, c, ⟨hnot, -⟩ | ⟨-, rest, rfl, hc⟩, h⟩
        · exact absurd hrelated hnot
        · exact ⟨rest, c, hc, by rwa [← hposition]⟩

end MapPositions

/-- A search through a list and its positions finds the first failure. -/
theorem find?_zipIdx_eq_some_iff (check : α → Prop) [DecidablePred check] {l : List α} {a : α}
    {i : Nat} : (l.zipIdx.find? fun b => ¬ check b.1) = some (a, i) ↔
      ∃ before, FirstFailure check l before a ∧ i = before.length := by
  rw [List.find?_eq_some_iff_append]
  constructor
  · rintro ⟨ha, as, bs, hl, hbefore⟩
    obtain ⟨before, rest, rfl, rfl, hrest⟩ := List.zipIdx_eq_append_iff.mp hl
    obtain ⟨b, after, rfl, hb, -⟩ := List.zipIdx_eq_cons_iff.mp hrest.symm
    cases hb
    refine ⟨before, ⟨⟨after, rfl⟩, fun b hb => ?_, by simpa using ha⟩, by simp⟩
    obtain ⟨j, hj⟩ := List.mem_iff_getElem?.mp hb
    simpa using hbefore (b, j) (List.mk_mem_zipIdx_iff_getElem?.mpr hj)
  · rintro ⟨before, ⟨⟨after, rfl⟩, hbefore, ha⟩, rfl⟩
    refine ⟨by simpa using ha, before.zipIdx, after.zipIdx (before.length + 1),
      by simp [List.zipIdx_append], fun b hb => ?_⟩
    simpa using hbefore b.1 (List.fst_mem_of_mem_zipIdx hb)

end LinearProgramming
