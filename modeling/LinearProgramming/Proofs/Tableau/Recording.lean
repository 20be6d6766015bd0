import LinearProgramming.Proofs.Tableau.Attempts

/-!
# Recording

A caller may ask for pivots and turn recording on or off, in any order. The tableau, the count
of its pivots and the answers to the calls only depend on where pivots are asked for. The
history keeps snapshots of tableaux that have been passed, in their order, and the newest is
always that of the current tableau. All are kept as long as recording is on. While it is off
there are at most two, since each new snapshot takes the place of the one before, unless that
is the first.
-/

namespace LinearProgramming

namespace History

variable {α : Type}

theorem get?_zero (h : History α) : h.get? 0 = some h.first := rfl

theorem getLast?_toList (h : History α) : h.toList.getLast? = some h.latest := by
  rw [toList, List.getLast?_cons, Array.getLast?_toList]
  rfl

/-- The newest entry stands behind all others. -/
theorem dropLast_concat_latest (h : History α) :
    h.toList.dropLast ++ [h.latest] = h.toList := by
  obtain ⟨init, hinit⟩ := List.getLast?_eq_some_iff.mp h.getLast?_toList
  rw [hinit, List.dropLast_concat]

theorem toList_add_true (h : History α) (entry : α) :
    (h.add true entry).toList = h.toList ++ [entry] := by
  simp [add, toList]

/-- Without all entries kept, a new one takes the place of the newest after the first. -/
theorem toList_add_false (h : History α) (entry : α) :
    (h.add false entry).toList = h.first :: (h.later.toList.dropLast ++ [entry]) := by
  simp [add, toList]

/-- A new entry comes last. Of the entries before it the newest may be gone. -/
theorem exists_toList_add (h : History α) (keepAll : Bool) (entry : α) :
    ∃ kept, kept.Sublist h.toList ∧ (h.add keepAll entry).toList = kept ++ [entry] := by
  cases keepAll with
  | true => exact ⟨h.toList, List.Sublist.refl _, h.toList_add_true entry⟩
  | false =>
    refine ⟨h.first :: h.later.toList.dropLast, ?_, h.toList_add_false entry⟩
    exact (List.dropLast_sublist _).cons_cons _

/-- While there are at most two entries, a new one that takes the place of the second leaves
two of them. -/
theorem toList_add_false_of_size_le {h : History α} (hsize : h.later.size ≤ 1) (entry : α) :
    (h.add false entry).toList = [h.first, entry] := by
  have hnone : h.later.toList.dropLast = [] := by
    apply List.eq_nil_of_length_eq_zero
    rw [List.length_dropLast, Array.length_toList]
    omega
  rw [toList_add_false, hnone, List.nil_append]

/-- From two entries on the newest one is exchanged. -/
theorem toList_add_false_of_le_size {h : History α} (hsize : 1 ≤ h.later.size) (entry : α) :
    (h.add false entry).toList = h.toList.set (h.length - 1) entry := by
  have hne : h.later.toList ≠ [] := by
    apply List.ne_nil_of_length_pos
    rwa [Array.length_toList]
  have hlast : h.length - 1 = h.toList.dropLast.length := by
    rw [List.length_dropLast, length_toList]
  rw [toList_add_false, hlast]
  conv_rhs => rw [← h.dropLast_concat_latest]
  rw [List.dropLast_concat, List.set_append_right _ _ le_rfl, Nat.sub_self, toList,
    List.dropLast_cons_of_ne_nil hne]
  rfl

end History

namespace Tableau

variable {F : Type} [Scalar F] {m n : Nat}

/-- The tableaux that calls to pivot pass through: the first one, and the one after each pivot
that is made. -/
def passed : Tableau F m n → List (Nat × Nat) → List (Tableau F m n)
  | t, [] => [t]
  | t, position :: rest =>
    match t.pivotPosition? position.1 position.2 with
    | .ok found => t :: passed (t.pivot found.1 found.2) rest
    | .error _ => passed t rest

/-- What calls to pivot are answered, one after the other. -/
def answers : Tableau F m n → List (Nat × Nat) → List (Except Failure Unit)
  | _, [] => []
  | t, position :: rest =>
    match t.pivotPosition? position.1 position.2 with
    | .ok found => .ok () :: answers (t.pivot found.1 found.2) rest
    | .error failure => .error failure :: answers t rest

theorem passed_cons_of_ok {t : Tableau F m n} {row column : Nat} {found : Fin m × Fin n}
    (h : t.pivotPosition? row column = .ok found) (rest : List (Nat × Nat)) :
    t.passed ((row, column) :: rest) = t :: (t.pivot found.1 found.2).passed rest := by
  rw [passed, h]

theorem passed_cons_of_error {t : Tableau F m n} {row column : Nat} {failure : Failure}
    (h : t.pivotPosition? row column = .error failure) (rest : List (Nat × Nat)) :
    t.passed ((row, column) :: rest) = t.passed rest := by
  rw [passed, h]

theorem answers_cons_of_ok {t : Tableau F m n} {row column : Nat} {found : Fin m × Fin n}
    (h : t.pivotPosition? row column = .ok found) (rest : List (Nat × Nat)) :
    t.answers ((row, column) :: rest) = .ok () :: (t.pivot found.1 found.2).answers rest := by
  rw [answers, h]

theorem answers_cons_of_error {t : Tableau F m n} {row column : Nat} {failure : Failure}
    (h : t.pivotPosition? row column = .error failure) (rest : List (Nat × Nat)) :
    t.answers ((row, column) :: rest) = .error failure :: t.answers rest := by
  rw [answers, h]

end Tableau

namespace Trail

variable {F : Type} [Scalar F] {m n : Nat}

/-- What a caller may ask of a trail: a pivot at the row and column with these numbers, or that
recording is on or off from now on. -/
inductive Call where
  | pivot (row column : Nat)
  | record (recording : Bool)
  deriving DecidableEq

/-- The positions at which calls ask for pivots, in order. -/
def positions : List Call → List (Nat × Nat)
  | [] => []
  | .pivot row column :: rest => (row, column) :: positions rest
  | .record _ :: rest => positions rest

/-- The trail after calls, one after the other, failing ones included. -/
def calls : Trail F m n → List Call → Trail F m n
  | t, [] => t
  | t, .pivot row column :: rest => (t.attempt (row, column)).calls rest
  | t, .record recording :: rest => (t.record recording).calls rest

/-- What the calls to pivot among some calls are answered, one after the other. -/
def answers : Trail F m n → List Call → List (Except Failure Unit)
  | _, [] => []
  | t, .pivot row column :: rest =>
    (t.pivot? row column).map (fun _ => ()) :: (t.attempt (row, column)).answers rest
  | t, .record recording :: rest => (t.record recording).answers rest

theorem tableau_pivot (t : Trail F m n) (r : Fin m) (k : Fin n) :
    (t.pivot r k).tableau = t.tableau.pivot r k := rfl

theorem pivots_pivot (t : Trail F m n) (r : Fin m) (k : Fin n) :
    (t.pivot r k).pivots = t.pivots + 1 := rfl

theorem history_pivot (t : Trail F m n) (r : Fin m) (k : Fin n) :
    (t.pivot r k).history = t.history.add t.recording (t.tableau.pivot r k).snapshot := rfl

theorem latest_pivot (t : Trail F m n) (r : Fin m) (k : Fin n) :
    (t.pivot r k).latest = (t.tableau.pivot r k).snapshot := t.history.latest_add _ _

/-- A call makes a pivot, or is refused one and changes nothing, or sets the flag. Induction on
calls has a case for each of these. -/
@[elab_as_elim]
theorem calls_induction {P : Trail F m n → List Call → Prop} (nil : ∀ t, P t [])
    (pivot : ∀ t row column rest (found : Fin m × Fin n),
      t.tableau.pivotPosition? row column = .ok found → P (t.pivot found.1 found.2) rest →
      t.attempt (row, column) = t.pivot found.1 found.2 → P t (.pivot row column :: rest))
    (refused : ∀ t row column rest failure,
      t.tableau.pivotPosition? row column = .error failure → P t rest →
      t.attempt (row, column) = t → P t (.pivot row column :: rest))
    (record : ∀ t recording rest, P (t.record recording) rest → P t (.record recording :: rest))
    (t : Trail F m n) (cs : List Call) : P t cs := by
  induction cs generalizing t with
  | nil => exact nil t
  | cons c rest ih =>
    cases c with
    | pivot row column =>
      cases h : t.tableau.pivotPosition? row column with
      | ok found =>
        exact pivot t row column rest found h (ih _) (attempt_of_pivotPosition?_ok h)
      | error failure =>
        exact refused t row column rest failure h (ih _) (attempt_of_pivotPosition?_error h)
    | record recording => exact record t recording rest (ih _)

/-- The last tableau that is passed is the current one. -/
theorem getLast?_passed (t : Trail F m n) (cs : List Call) :
    (t.tableau.passed (positions cs)).getLast? = some (t.calls cs).tableau := by
  induction t, cs using calls_induction with
  | nil t => rfl
  | pivot t row column rest found h ih hattempt =>
    rw [positions, Tableau.passed_cons_of_ok h, calls, hattempt, List.getLast?_cons]
    rw [← tableau_pivot, ih, Option.getD_some]
  | refused t row column rest failure h ih hattempt =>
    rwa [positions, Tableau.passed_cons_of_error h, calls, hattempt]
  | record t recording rest ih => exact ih

/-- Every tableau that is passed but the first is the result of a pivot. -/
theorem length_passed (t : Trail F m n) (cs : List Call) :
    t.pivots + (t.tableau.passed (positions cs)).length = (t.calls cs).pivots + 1 := by
  induction t, cs using calls_induction with
  | nil t => rfl
  | pivot t row column rest found h ih hattempt =>
    rw [positions, Tableau.passed_cons_of_ok h, calls, hattempt, List.length_cons, ← ih,
      pivots_pivot, tableau_pivot]
    omega
  | refused t row column rest failure h ih hattempt =>
    rwa [positions, Tableau.passed_cons_of_error h, calls, hattempt]
  | record t recording rest ih => exact ih

theorem answers_eq (t : Trail F m n) (cs : List Call) :
    t.answers cs = t.tableau.answers (positions cs) := by
  induction t, cs using calls_induction with
  | nil t => rfl
  | pivot t row column rest found h ih hattempt =>
    rw [positions, Tableau.answers_cons_of_ok h, answers, hattempt, pivot?_of_ok h, ih]
    rfl
  | refused t row column rest failure h ih hattempt =>
    rw [positions, Tableau.answers_cons_of_error h, answers, hattempt, pivot?_of_error h, ih]
    rfl
  | record t recording rest ih => exact ih

/-- Whether the history begins with the snapshot of a tableau and ends with that of the current
one. -/
structure IsAnchored (first : Tableau F m n) (t : Trail F m n) : Prop where
  first_eq : t.history.first = first.snapshot
  latest_eq : t.latest = t.tableau.snapshot

theorem isAnchored_start (t : Tableau F m n) : (start t).IsAnchored t := ⟨rfl, rfl⟩

theorem isAnchored_calls {first : Tableau F m n} {t : Trail F m n} (h : t.IsAnchored first)
    (cs : List Call) : (t.calls cs).IsAnchored first := by
  induction t, cs using calls_induction with
  | nil t => exact h
  | pivot t row column rest found hfound ih hattempt =>
    rw [calls, hattempt]
    exact ih ⟨h.first_eq, t.latest_pivot _ _⟩
  | refused t row column rest failure hfailure ih hattempt =>
    rw [calls, hattempt]
    exact ih h
  | record t recording rest ih => exact ih ⟨h.first_eq, h.latest_eq⟩

/-- The newest snapshot stands for the tableau from which the calls go on, so the tableaux that
are passed continue the others. -/
theorem history_calls_sublist {t : Trail F m n} (h : t.latest = t.tableau.snapshot)
    (cs : List Call) : (t.calls cs).history.toList.Sublist (t.history.toList.dropLast ++
      (t.tableau.passed (positions cs)).map Tableau.snapshot) := by
  induction t, cs using calls_induction with
  | nil t =>
    rw [positions, Tableau.passed, List.map_singleton, ← h, latest,
      t.history.dropLast_concat_latest]
    exact List.Sublist.refl _
  | pivot t row column rest found hfound ih hattempt =>
    obtain ⟨kept, hkept, hlist⟩ :=
      t.history.exists_toList_add t.recording (t.tableau.pivot found.1 found.2).snapshot
    have hrest := ih (t.latest_pivot _ _)
    rw [history_pivot, hlist, List.dropLast_concat, tableau_pivot] at hrest
    rw [positions, Tableau.passed_cons_of_ok hfound, calls, hattempt, List.map_cons, ← h,
      List.append_cons, latest, t.history.dropLast_concat_latest]
    exact hrest.trans (hkept.append_right _)
  | refused t row column rest failure hfailure ih hattempt =>
    rw [positions, Tableau.passed_cons_of_error hfailure, calls, hattempt]
    exact ih h
  | record t recording rest ih => exact ih h

/-- While recording is on, the snapshots of all tableaux that are passed are kept. -/
theorem history_calls_of_recording {t : Trail F m n} (h : t.latest = t.tableau.snapshot)
    (hrecording : t.recording = true) {cs : List Call} (hcs : Call.record false ∉ cs) :
    (t.calls cs).history.toList = t.history.toList.dropLast ++
      (t.tableau.passed (positions cs)).map Tableau.snapshot := by
  induction t, cs using calls_induction with
  | nil t =>
    rw [positions, Tableau.passed, List.map_singleton, ← h, latest,
      t.history.dropLast_concat_latest]
    rfl
  | pivot t row column rest found hfound ih hattempt =>
    have hrest := ih (t.latest_pivot _ _) hrecording (List.not_mem_of_not_mem_cons hcs)
    rw [history_pivot, hrecording, History.toList_add_true, List.dropLast_concat,
      tableau_pivot] at hrest
    rw [positions, Tableau.passed_cons_of_ok hfound, calls, hattempt, List.map_cons, ← h,
      List.append_cons, latest, t.history.dropLast_concat_latest, hrest]
  | refused t row column rest failure hfailure ih hattempt =>
    rw [positions, Tableau.passed_cons_of_error hfailure, calls, hattempt]
    exact ih h hrecording (List.not_mem_of_not_mem_cons hcs)
  | record t recording rest ih =>
    refine ih h ?_ (List.not_mem_of_not_mem_cons hcs)
    cases recording with
    | true => rfl
    | false => exact absurd rfl (List.ne_of_not_mem_cons hcs)

/-- Whether recording is off, and the history has the first snapshot, and after a pivot the
newest one, and no other. -/
structure IsBrief (t : Trail F m n) : Prop where
  recording_eq : t.recording = false
  toList_eq : t.history.toList =
    if t.pivots = 0 then [t.history.first] else [t.history.first, t.latest]

theorem IsBrief.pivot {t : Trail F m n} (h : t.IsBrief) (r : Fin m) (k : Fin n) :
    (t.pivot r k).IsBrief := by
  have hsize : t.history.later.size + 1 ≤ 2 := by
    rw [← History.length, ← History.length_toList, h.toList_eq]
    split
    · exact one_le_two
    · exact le_rfl
  refine ⟨h.recording_eq, ?_⟩
  rw [pivots_pivot, if_neg (Nat.succ_ne_zero _), latest_pivot, history_pivot, h.recording_eq,
    History.toList_add_false_of_size_le (Nat.le_of_succ_le_succ hsize), History.first_add]

theorem IsBrief.calls {t : Trail F m n} (h : t.IsBrief) {cs : List Call}
    (hcs : Call.record true ∉ cs) : (t.calls cs).IsBrief := by
  induction t, cs using calls_induction with
  | nil t => exact h
  | pivot t row column rest found hfound ih hattempt =>
    rw [Trail.calls, hattempt]
    exact ih (h.pivot _ _) (List.not_mem_of_not_mem_cons hcs)
  | refused t row column rest failure hfailure ih hattempt =>
    rw [Trail.calls, hattempt]
    exact ih h (List.not_mem_of_not_mem_cons hcs)
  | record t recording rest ih =>
    refine ih ⟨?_, h.toList_eq⟩ (List.not_mem_of_not_mem_cons hcs)
    cases recording with
    | true => exact absurd rfl (List.ne_of_not_mem_cons hcs)
    | false => rfl

end Trail

end LinearProgramming
