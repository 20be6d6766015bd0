import LinearProgramming.Main
import LinearProgramming.ProblemFile.FileTree
import LinearProgramming.Proofs.Checked.Solver
import LinearProgramming.Proofs.Problem.Shape
import LinearProgramming.Proofs.ProblemFile.Refusals
import LinearProgramming.Proofs.Solver.Ascent
import LinearProgramming.Proofs.Solver.Degeneracy
import LinearProgramming.Proofs.Solver.Limits
import LinearProgramming.Proofs.Solver.Mirrored
import LinearProgramming.Proofs.Solver.Outcomes
import LinearProgramming.Proofs.Solver.Overlooked
import LinearProgramming.Proofs.Solver.Recording
import LinearProgramming.Proofs.Solver.Replay
import LinearProgramming.Proofs.Solver.Soundness
import LinearProgramming.Proofs.Tableau.Cells
import LinearProgramming.Proofs.Tableau.LowestIndices
import LinearProgramming.Proofs.Tableau.NearTies
import LinearProgramming.Proofs.Tableau.ZeroPivots
