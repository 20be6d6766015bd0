/-!
# Scalars

The method adds, multiplies, divides and compares numbers, and asks for nothing
else. No law is part of the class, so the definitions of this library also run on
rounded numbers, where sums depend on their order. Sums are therefore always
taken from left to right, starting at zero.
-/

namespace LinearProgramming

/-- Numbers that can be calculated with and compared. -/
class Scalar (F : Type) extends Zero F, One F, Add F, Sub F, Neg F, Mul F, Div F, LT F, LE F where
  [toDecidableLT : DecidableLT F]
  [toDecidableLE : DecidableLE F]

attribute [reducible, instance] Scalar.toDecidableLT Scalar.toDecidableLE

instance : Scalar Float where

instance : Scalar Float32 where

/-- Numbers with a square root, which only the check of an initial basis takes. -/
class SquareRoot (F : Type) where
  sqrt : F → F

instance : SquareRoot Float := ⟨Float.sqrt⟩

instance : SquareRoot Float32 := ⟨Float32.sqrt⟩

variable {F : Type} [Scalar F]

/-- Distance from zero. It is only ever compared, so the sign of a zero does not matter. -/
def magnitude (x : F) : F := if x < 0 then -x else x

/-- Sum of a finite family, from left to right. -/
def total {n : Nat} (f : Fin n → F) : F := Fin.foldl n (fun sum i => sum + f i) 0

/-- Inner product from left to right. Entries without a partner are left out. -/
def innerProduct (xs ys : List F) : F :=
  (List.zipWith (· * ·) xs ys).foldl (· + ·) 0

theorem total_succ {n : Nat} (f : Fin (n + 1) → F) :
    total f = total (fun i => f i.castSucc) + f (Fin.last n) := by
  simp [total, Fin.foldl_succ_last]

end LinearProgramming
