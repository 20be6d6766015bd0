import LinearProgramming.Proofs.Run.Replay
import LinearProgramming.Proofs.Solver.Inversion
import Mathlib.Algebra.Order.Field.Rat

/-!
# The history of a run can be replayed

With recording on, the largest rule leaves a history from which its run can be followed step
by step, without the tableaux. Any accepted basis will do, since neither the snapshots nor the
rule ask for unit columns.
-/

namespace LinearProgramming

variable {F : Type} [Field F] [LinearOrder F] [IsStrictOrderedRing F] {settings : Settings F}

/-- What the last snapshot of a run under the largest rule shows about its end. -/
theorem RunState.Stops.shown {m n : Nat} {s : RunState (PivotRule.largest : PivotRule F) m n}
    (hε : 0 ≤ s.trail.tableau.epsilon) {limit remaining : Nat} {failure : Option Failure}
    (h : s.Stops limit remaining failure) :
    ((Outcome.ofEnding ⟨s.trail, failure⟩).status = .optimal →
      s.trail.tableau.snapshot.ShowsOptimum s.trail.tableau.epsilon) ∧
    ((Outcome.ofEnding ⟨s.trail, failure⟩).status = .unbounded →
      s.trail.tableau.snapshot.ShowsNoBound s.trail.tableau.epsilon) := by
  rw [Outcome.status_ofEnding]
  cases h with
  | optimal hopt => exact ⟨fun _ => Tableau.showsOptimum_snapshot hopt, nofun⟩
  | limit => exact ⟨nofun, nofun⟩
  | noPivot hopt hchoose =>
    refine ⟨fun hstatus => ?_, fun _ => showsNoBound_of_choose hε hopt hchoose⟩
    exact absurd hstatus (Failure.status_ne_optimal _)

/-- **Histories can be replayed.** The numbers are exact, the tolerance is not negative, and
recording is on. From every accepted basis the method ends with an outcome under the largest
rule, and the history of its trail has a snapshot for every state. Each snapshot but the last
announces the next one. The last one shows no reduced cost above the tolerance if the outcome
is optimal, and one above it if the outcome is unbounded, in both cases without a limit. -/
theorem LinearProgram.solveFrom_largest_replayable (p : LinearProgram F)
    (hε : 0 ≤ settings.epsilon) (hhistory : settings.history = true) {start : BasicSolution F}
    {first : Trail F p.constraints.length p.dimension}
    (hfirst : p.trail? start settings.epsilon = .ok first) :
    ∃ outcome trail, p.solveFrom settings .largest start = .ok outcome ∧
      outcome.trail? = some trail ∧ trail.history.length = trail.pivots + 1 ∧
      (∀ k < trail.pivots, ∃ s next, trail.history.get? k = some s ∧
        trail.history.get? (k + 1) = some next ∧ s.Announces next settings.epsilon) ∧
      ∃ last, trail.history.get? trail.pivots = some last ∧
        (outcome.status = .optimal → last.ShowsOptimum settings.epsilon) ∧
        (outcome.status = .unbounded → last.ShowsNoBound settings.epsilon) := by
  obtain ⟨t, ht, rfl⟩ := exists_of_map_eq_ok hfirst
  have hepsilon : t.epsilon = settings.epsilon := (isFirstTableau_of_tableau? ht).epsilon_eq
  let initial := RunState.start .largest ((Trail.start t).record settings.history)
  let states := RunState.visited settings.limit initial
  have hε' : 0 ≤ initial.trail.tableau.epsilon := hε.trans hepsilon.ge
  obtain ⟨ending, hrun⟩ := RunState.exists_run_ofMethod_eq_ok (s := initial)
    PivotRule.largest_mem_ofMethod hε' settings.limit settings.limit
  obtain ⟨hlist, (hlength : states.length = _), last, remaining, hlast, htrail, hstops⟩ :=
    RunState.history_of_run (s := initial) hhistory rfl rfl hrun
  have hget (k : Nat) : ending.trail.history.get? k =
      states[k]?.map fun s => s.trail.tableau.snapshot := by
    rw [History.get?_eq_getElem?, hlist, List.getElem?_map]
  have hstates : ∀ s ∈ states, s.trail.tableau.epsilon = settings.epsilon := fun s hs =>
    (RunState.derivesFrom_of_mem_visited PivotRule.largest_mem_ofMethod hε' _ s
      hs).epsilon_eq.trans hepsilon
  refine ⟨Outcome.ofEnding ending, ending.trail, ?_, Outcome.trail?_ofEnding ending, ?_,
    fun k hk => ?_, ending.trail.tableau.snapshot, ?_, ?_⟩
  · rw [solveFrom_of_tableau? ht, runFrom, hrun]
    rfl
  · rw [← History.length_toList, hlist, List.length_map]
    exact hlength
  · have hk' : k + 1 < states.length := by omega
    have hstep := List.isChain_iff_getElem.mp (RunState.isChain_visited _ initial) k hk'
    have hannounces := hstep.announces (hε.trans (hstates _ (List.getElem_mem _)).ge)
    rw [hstates _ (List.getElem_mem _)] at hannounces
    refine ⟨_, _, ?_, ?_, hannounces⟩
    · rw [hget, List.getElem?_eq_getElem]
      rfl
    · rw [hget, List.getElem?_eq_getElem hk']
      rfl
  · rw [hget, hlast, htrail]
    rfl
  · have hepsilon' := hstates last (List.mem_of_getElem? hlast)
    have hshown := hstops.shown (hε.trans hepsilon'.ge)
    rw [hepsilon', ← htrail] at hshown
    exact hshown

/-- A problem whose first two columns tie, and whose two rows tie on the first of them. -/
def tiedMix : LinearProgram ℚ where
  direction := .maximize
  objective := [2, 2, 0, 0]
  constraints := [⟨[2, 1, 1, 0], .equal, 8⟩, ⟨[4, 1, 0, 1], .equal, 16⟩]
  dimension := 4
  rectangular := by decide

/-- The last two variables as a basis. -/
def tiedMixStart : BasicSolution ℚ :=
  { twoSlacks with values := [8, 16], paired := rfl }

/-- Ten pivots with a tolerance of a tenth and the whole history. -/
def tenTolerantPivots : Settings ℚ where
  limit := 10
  epsilon := 1 / 10
  history := true

theorem solveFrom_largest_replayable_tiedMix :
    0 ≤ tenTolerantPivots.epsilon ∧ tenTolerantPivots.history = true ∧
      ∃ first outcome trail, tiedMix.trail? tiedMixStart tenTolerantPivots.epsilon = .ok first ∧
        tiedMix.solveFrom tenTolerantPivots .largest tiedMixStart = .ok outcome ∧
        outcome.trail? = some trail ∧ trail.pivots = 2 ∧
        (∃ s next, trail.history.get? 1 = some s ∧ trail.history.get? 2 = some next ∧
          s.Announces next tenTolerantPivots.epsilon) ∧
        ∃ last, trail.history.get? 2 = some last ∧
          last.ShowsOptimum tenTolerantPivots.epsilon := by
  have hε : 0 ≤ tenTolerantPivots.epsilon := by decide +kernel
  have hfirst : tiedMix.trail? tiedMixStart tenTolerantPivots.epsilon = .ok _ := rfl
  obtain ⟨outcome, trail, houtcome, htrail, -, hannounces, last, hlast, hoptimal, -⟩ :=
    tiedMix.solveFrom_largest_replayable hε rfl hfirst
  have hshown : (tiedMix.solveFrom tenTolerantPivots .largest tiedMixStart).map
      (fun o => (o.status, o.trail?.map Trail.pivots)) = .ok (.optimal, some 2) := by
    decide +kernel
  rw [houtcome] at hshown
  obtain ⟨hstatus, hpivots⟩ := Prod.mk.inj (Except.ok.inj hshown)
  rw [htrail] at hpivots
  have hcount : trail.pivots = 2 := Option.some.inj hpivots
  rw [hcount] at hannounces hlast
  exact ⟨hε, rfl, _, outcome, trail, hfirst, houtcome, htrail, hcount,
    hannounces 1 (by decide), last, hlast, hoptimal hstatus⟩

end LinearProgramming
