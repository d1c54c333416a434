import DriverMonitor.Proofs.Number.Exact
import DriverMonitor.Linear.LeastSquares

/-! # Exact solvers of least-squares problems

`LeastSquares.IsExact` says what a solver does that makes no errors: it reports the rank of the rows, and
if the columns are independent it returns weights under which the squares of the differences add up to
the least sum. The weights are then the only ones, so targets that some weights meet give back these.

`LeastSquares.normal` is such a solver, by the normal equations.
-/

namespace DriverMonitor.LeastSquares

open Number (Exact ExactFunctions)
open Matrix

variable {c : ExactFunctions} {m n : ℕ}

/-! ## Problems as matrices -/

/-- The first entries of a list as real numbers; what is missing counts as zero. -/
def entries (n : ℕ) (xs : List (Exact c)) : Fin n → ℝ := fun i => (xs.getD i ⟨0⟩).real

def matrix (columns : ℕ) (rows : List (List (Exact c))) : Matrix (Fin rows.length) (Fin columns) ℝ :=
  .of fun i => entries columns rows[i]

noncomputable def squaredError (A : Matrix (Fin m) (Fin n) ℝ) (targets : Fin m → ℝ)
    (weights : Fin n → ℝ) : ℝ :=
  ∑ i, ((A *ᵥ weights) i - targets i) ^ 2

structure IsExact (solver : LeastSquares (Exact c)) : Prop where
  rank : ∀ columns rows, solver.rank columns rows = (matrix columns rows).rank
  length_solve : ∀ columns rows targets, (solver.solve columns rows targets).length = columns
  solve_le : ∀ columns rows targets, (matrix columns rows).rank = columns → ∀ weights,
    squaredError (matrix columns rows) (entries _ targets)
        (entries columns (solver.solve columns rows targets)) ≤
      squaredError (matrix columns rows) (entries _ targets) weights

theorem eq_of_entries {xs ys : List (Exact c)} (xsLength : xs.length = n) (ysLength : ys.length = n)
    (same : entries n xs = entries n ys) : xs = ys := by
  apply List.ext_getElem (xsLength.trans ysLength.symm)
  intro i inXs inYs
  have here := congrFun same ⟨i, xsLength ▸ inXs⟩
  simp only [entries, List.getD_eq_getElem _ _ inXs, List.getD_eq_getElem _ _ inYs] at here
  exact Exact.ext here

/-! ## Independent columns -/

section Rank

variable {A : Matrix (Fin m) (Fin n) ℝ}

/-- The columns are independent if no weights but zeros make all rows vanish. -/
theorem rank_eq_iff : A.rank = n ↔ ∀ weights, A *ᵥ weights = 0 → weights = 0 := by
  have count := A.mulVecLin.finrank_range_add_finrank_ker
  rw [Module.finrank_fin_fun] at count
  have kernel : A.mulVecLin.ker = ⊥ ↔ ∀ weights, A *ᵥ weights = 0 → weights = 0 :=
    LinearMap.ker_eq_bot'
  rw [← kernel, ← Submodule.finrank_eq_zero, Matrix.rank]
  omega

theorem eq_of_mulVec_eq (full : A.rank = n) {v w : Fin n → ℝ} (same : A *ᵥ v = A *ᵥ w) : v = w := by
  apply sub_eq_zero.mp
  apply rank_eq_iff.mp full
  rw [Matrix.mulVec_sub, same, sub_self]

/-- Whether the columns are independent depends on which rows there are, not on their order or number. -/
theorem rank_matrix_eq_iff {rows : List (List (Exact c))} :
    (matrix n rows).rank = n ↔
      ∀ weights, (∀ row ∈ rows, entries n row ⬝ᵥ weights = 0) → weights = 0 := by
  have vanishes (weights : Fin n → ℝ) :
      matrix n rows *ᵥ weights = 0 ↔ ∀ row ∈ rows, entries n row ⬝ᵥ weights = 0 := by
    rw [funext_iff, List.forall_mem_iff_forall_getElem, Fin.forall_iff]
    exact Iff.rfl
  simp only [rank_eq_iff, vanishes]

end Rank

/-! ## The least sum of squares -/

section Minimum

variable {A : Matrix (Fin m) (Fin n) ℝ} {targets : Fin m → ℝ} {weights : Fin n → ℝ}

theorem squaredError_eq (targets : Fin m → ℝ) (weights : Fin n → ℝ) :
    squaredError A targets weights = (A *ᵥ weights - targets) ⬝ᵥ (A *ᵥ weights - targets) := by
  simp [squaredError, dotProduct, pow_two]

theorem squaredError_eq_zero_iff : squaredError A targets weights = 0 ↔ A *ᵥ weights = targets := by
  rw [squaredError_eq, dotProduct_self_eq_zero, sub_eq_zero]

/-- Targets that some weights meet are met by the best weights, which are the same if the columns are
independent. -/
theorem eq_of_squaredError_le {best : Fin n → ℝ} (full : A.rank = n) (met : A *ᵥ weights = targets)
    (least : squaredError A targets best ≤ squaredError A targets weights) : best = weights := by
  have noError : squaredError A targets weights = 0 := squaredError_eq_zero_iff.mpr met
  have notNegative : 0 ≤ squaredError A targets best := Finset.sum_nonneg fun _ _ => sq_nonneg _
  have bestMet : A *ᵥ best = targets := by
    apply squaredError_eq_zero_iff.mp
    linarith
  exact eq_of_mulVec_eq full (bestMet.trans met.symm)

/-- Differences that are orthogonal to all columns are the least ones. -/
theorem squaredError_le_of_orthogonal (orthogonal : Aᵀ *ᵥ (A *ᵥ weights - targets) = 0)
    (others : Fin n → ℝ) : squaredError A targets weights ≤ squaredError A targets others := by
  have split : A *ᵥ others - targets = (A *ᵥ weights - targets) + A *ᵥ (others - weights) := by
    rw [Matrix.mulVec_sub]
    abel
  have mixed : (A *ᵥ weights - targets) ⬝ᵥ A *ᵥ (others - weights) = 0 := by
    rw [dotProduct_mulVec, ← mulVec_transpose, orthogonal, zero_dotProduct]
  have rest : 0 ≤ (A *ᵥ (others - weights)) ⬝ᵥ (A *ᵥ (others - weights)) :=
    Finset.sum_nonneg fun _ _ => mul_self_nonneg _
  rw [squaredError_eq, squaredError_eq, split, add_dotProduct, dotProduct_add, dotProduct_add, mixed,
    dotProduct_comm (A *ᵥ (others - weights)) (A *ᵥ weights - targets), mixed]
  linarith

end Minimum

/-- Of independent columns, an exact solver finds the weights that the targets were made with. -/
theorem IsExact.solve_eq {solver : LeastSquares (Exact c)} (exactSolver : solver.IsExact)
    {rows : List (List (Exact c))} {targets weights : List (Exact c)}
    (full : (matrix n rows).rank = n) (width : weights.length = n)
    (met : ∀ i : Fin rows.length,
      entries n rows[i] ⬝ᵥ entries n weights = entries rows.length targets i) :
    solver.solve n rows targets = weights := by
  apply eq_of_entries (exactSolver.length_solve n rows targets) width
  exact eq_of_squaredError_le full (funext met) (exactSolver.solve_le n rows targets full _)

/-! ## The normal equations -/

theorem isUnit_det_of_rank {A : Matrix (Fin m) (Fin n) ℝ} (full : A.rank = n) :
    IsUnit (Aᵀ * A).det := by
  have square : (Aᵀ * A).rank = n := by rw [rank_transpose_mul_self, full]
  rw [← isUnit_iff_isUnit_det, ← mulVec_injective_iff_isUnit]
  intro v w
  exact eq_of_mulVec_eq square

noncomputable def normal : LeastSquares (Exact c) where
  rank columns rows := (matrix columns rows).rank
  solve columns rows targets :=
    let A := matrix columns rows
    List.ofFn fun j => ⟨((Aᵀ * A)⁻¹ *ᵥ (Aᵀ *ᵥ entries _ targets)) j⟩

theorem entries_ofFn (f : Fin n → ℝ) : entries n (List.ofFn fun j => (⟨f j⟩ : Exact c)) = f := by
  funext j
  simp [entries]

/-- There is an exact solver, so what is assumed of one can be met. -/
theorem normal_isExact : (normal : LeastSquares (Exact c)).IsExact where
  rank _ _ := rfl
  length_solve _ _ _ := List.length_ofFn
  solve_le columns rows targets full := by
    apply squaredError_le_of_orthogonal
    simp only [normal, entries_ofFn]
    rw [mulVec_sub, mulVec_mulVec, mulVec_mulVec, mul_nonsing_inv _ (isUnit_det_of_rank full),
      one_mulVec, sub_self]

end DriverMonitor.LeastSquares
