import Mathlib
import QuadraticTrials.Elimination
import QuadraticTrials.Proofs.Exact.Dense

/-!
Elimination over an ordered field returns solutions only: a step replaces the equations by the
pivot and equations in fewer unknowns that hold at the same points. It returns one exactly if the
matrix is nonsingular, since only then the largest leading coefficient never vanishes.
-/

namespace QuadraticTrials

open Matrix

namespace Equation

variable {K : Type} [Field K] [LinearOrder K] {n : Nat}

/-- An equation holds at a point. -/
def Holds (e : Equation K n) (x : Fin n → K) : Prop :=
  e.coefficients.get ⬝ᵥ x = e.constant

omit [LinearOrder K] in
/-- An equation holds at a point with a first coordinate, read off the split of its terms. -/
theorem holds_cons {e : Equation K (n + 1)} {a : K} {x : Fin n → K}
    : e.Holds (Fin.cons a x) ↔ e.leading * a + e.others.get ⬝ᵥ x = e.constant := by
  simp [Holds, dotProduct, Fin.sum_univ_succ, leading, others, Vec.head, Vec.tail]

/-- Exchanging the first equation with the chosen one loses none, by cases on the choice. -/
theorem choosePivot_perm (first : Equation K (n + 1)) (rest : List (Equation K (n + 1)))
    : ((choosePivot first rest).1 :: (choosePivot first rest).2).Perm (first :: rest) := by
  unfold choosePivot
  dsimp only
  split
  · exact .refl _
  · rename_i i _
    split
    · exact .refl _
    · rename_i e found
      obtain ⟨bound, rfl⟩ := List.getElem?_eq_some_iff.mp found
      have exchanged := (List.set_perm_cons_eraseIdx bound first).cons rest[i]
      have restored := (List.getElem_cons_eraseIdx_perm bound).cons first
      exact exchanged.trans ((List.Perm.swap _ _ _).trans restored)

/-- Where the pivot holds, an equation holds exactly if its eliminated form does: the multiple of
the pivot taken away removes just the first term.
-/
theorem eliminate_holds {pivot e : Equation K (n + 1)} {a : K} {x : Fin n → K}
    (usable : pivot.leading ≠ 0) (holds : pivot.Holds (Fin.cons a x))
    : (pivot.eliminate (1 / pivot.leading) e).Holds x ↔ e.Holds (Fin.cons a x) := by
  rw [holds_cons] at holds ⊢
  have terms (factor : K)
      : (fun i => -pivot.others.get i * factor + e.others.get i) ⬝ᵥ x
        = e.others.get ⬝ᵥ x - pivot.others.get ⬝ᵥ x * factor := by
    simp only [dotProduct, Finset.sum_mul, ← Finset.sum_sub_distrib]
    exact Finset.sum_congr rfl fun i _ => by ring
  have cancel : pivot.leading * (e.leading * (1 / pivot.leading)) = e.leading := by
    field_simp
  simp only [Holds, eliminate, Vec.get_zipWith, terms, ← holds]
  constructor
  · intro same
    linear_combination same - a * cancel
  · intro same
    linear_combination same + a * cancel

omit [LinearOrder K] in
/-- Taking products away one by one takes away their sum, by induction over the pairs. -/
theorem foldr_sub_products (constant : K) (coefficients values : List K)
    : (List.zip coefficients values).foldr (fun (c, v) rest => -v * c + rest) constant
      = constant - (List.zipWith (· * ·) coefficients values).sum := by
  induction coefficients generalizing values with
  | nil => simp
  | cons c coefficients ih =>
      cases values with
      | nil => simp
      | cons v values =>
          simp only [List.zip_cons_cons, List.foldr_cons, ih, List.zipWith_cons_cons,
            List.sum_cons]
          ring

theorem backSubstitute_eq (pivot : Equation K (n + 1)) (x : Vector K n)
    : pivot.backSubstitute x
      = (pivot.constant - pivot.others.get ⬝ᵥ x.get) / pivot.leading := by
  rw [backSubstitute, foldr_sub_products, ← Vector.toList_zipWith, Vector.sum_toList,
    Vec.sum_eq_sum_get, Vec.get_zipWith]
  rfl

/-- The pivot holds after its own substitution, by cancelling its leading coefficient. -/
theorem holds_backSubstitute {pivot : Equation K (n + 1)} (usable : pivot.leading ≠ 0)
    (x : Vector K n)
    : pivot.Holds (Fin.cons (pivot.backSubstitute x) x.get) := by
  rw [holds_cons, backSubstitute_eq]
  field_simp
  ring

/-- Every equation holds at a returned point, by induction over the unknowns: the eliminated
equations hold at the others, the pivot by substitution, and with it all equations.
-/
theorem solve?_holds {equations : List (Equation K n)} {x : Vector K n}
    (square : equations.length = n) (solved : solve? n equations = some x)
    : ∀ e ∈ equations, e.Holds x.get := by
  induction n with
  | zero =>
      intro e member
      rw [List.length_eq_zero_iff.mp square] at member
      cases member
  | succ n ih =>
      cases equations with
      | nil => simp at square
      | cons first rest =>
          have perm := choosePivot_perm first rest
          simp only [solve?] at solved
          generalize choosePivot first rest = chosen at perm solved
          obtain ⟨pivot, remaining⟩ := chosen
          split at solved
          · cases solved
          rename_i usable
          obtain ⟨others, inner, rfl⟩ := Option.map_eq_some_iff.mp solved
          have lead : pivot.leading ≠ 0 := by simpa using usable
          have size : (remaining.map (pivot.eliminate (1 / pivot.leading))).length = n := by
            have total := perm.length_eq
            simp only [List.length_cons] at total square
            rw [List.length_map]
            omega
          have eliminated := ih size inner
          have pivotHolds := holds_backSubstitute lead others
          intro e member
          rw [Vec.get_insertIdx_zero]
          rcases List.mem_cons.mp (perm.mem_iff.mpr member) with rfl | later
          · exact pivotHolds
          · exact (eliminate_holds lead pivotHolds).mp
              (eliminated _ (List.mem_map_of_mem later))

-----------------------------------------------------------------------------------------
-- Nonsingular systems
-----------------------------------------------------------------------------------------

/-- The scan ends at a greatest value above its bound, or keeps what it had when there is none, by
induction over the values.
-/
theorem largestAbove_spec (best : K) (found : Option Nat) (position : Nat) (values : List K)
    : (largestAbove best found position values = found ∧ ∀ v ∈ values, v ≤ best)
      ∨ ∃ i a, largestAbove best found position values = some (position + i)
        ∧ values[i]? = some a ∧ best < a ∧ ∀ v ∈ values, v ≤ a := by
  induction values generalizing best found position with
  | nil => exact .inl ⟨rfl, by simp⟩
  | cons a rest ih =>
      rw [largestAbove]
      split
      · rename_i above
        refine .inr ?_
        rcases ih a (some position) (position + 1) with
          ⟨kept, below⟩ | ⟨i, b, chosen, place, above', below⟩
        · refine ⟨0, a, kept, rfl, above, ?_⟩
          simpa using below
        · refine ⟨i + 1, b, by rw [chosen]; congr 1; omega, place, above.trans above', ?_⟩
          simpa using ⟨above'.le, below⟩
      · rename_i notAbove
        have first : a ≤ best := not_lt.mp notAbove
        rcases ih best found (position + 1) with
          ⟨kept, below⟩ | ⟨i, b, chosen, place, above, below⟩
        · refine .inl ⟨kept, ?_⟩
          simpa using ⟨first, below⟩
        · refine .inr ⟨i + 1, b, by rw [chosen]; congr 1; omega, place, above, ?_⟩
          simpa using ⟨first.trans above.le, below⟩

/-- No leading coefficient is larger than that of the chosen equation. -/
theorem abs_leading_le_choosePivot (first : Equation K (n + 1)) (rest : List (Equation K (n + 1)))
    : ∀ e ∈ first :: rest, |e.leading| ≤ |(choosePivot first rest).1.leading| := by
  intro e member
  have spec := largestAbove_spec |first.leading| none 0 (rest.map fun e => |e.leading|)
  unfold choosePivot
  simp only [Scalar.abs_eq_abs]
  rcases spec with ⟨kept, below⟩ | ⟨i, a, chosen, place, above, below⟩
  · rw [kept]
    rcases List.mem_cons.mp member with rfl | later
    · exact le_rfl
    · exact below _ (List.mem_map_of_mem later)
  · rw [chosen, Nat.zero_add]
    rw [List.getElem?_map] at place
    obtain ⟨greatest, found, rfl⟩ := Option.map_eq_some_iff.mp place
    simp only [found]
    rcases List.mem_cons.mp member with rfl | later
    · exact above.le
    · exact below _ (List.mem_map_of_mem later)

/-- The equation with the same coefficients and the constant zero. -/
def homogeneous (e : Equation K n) : Equation K n :=
  ⟨e.coefficients, 0⟩

omit [LinearOrder K] in
theorem homogeneous_holds_cons {e : Equation K (n + 1)} {a : K} {x : Fin n → K}
    : e.homogeneous.Holds (Fin.cons a x) ↔ e.leading * a + e.others.get ⬝ᵥ x = 0 :=
  holds_cons

theorem homogeneous_eliminate (pivot e : Equation K (n + 1)) (inverse : K)
    : (pivot.eliminate inverse e).homogeneous
      = pivot.homogeneous.eliminate inverse e.homogeneous := by
  simp [homogeneous, eliminate, leading, others]

/-- Elimination returns a point when only zero makes all left sides vanish, by induction over the
unknowns: a vanishing pivot would leave the first unknown free, and a point at which the eliminated
left sides vanish extends to one for all of them.
-/
theorem exists_solve? [IsStrictOrderedRing K] {equations : List (Equation K n)}
    (trivial : ∀ x, (∀ e ∈ equations, e.homogeneous.Holds x) → x = 0)
    : ∃ x, solve? n equations = some x := by
  induction n with
  | zero => exact ⟨_, rfl⟩
  | succ n ih =>
      cases equations with
      | nil =>
          have vanishes := trivial 1 (by simp)
          exact absurd (congrFun vanishes 0) one_ne_zero
      | cons first rest =>
          have perm := choosePivot_perm first rest
          have largest := abs_leading_le_choosePivot first rest
          simp only [solve?]
          generalize choosePivot first rest = chosen at perm largest ⊢
          obtain ⟨pivot, remaining⟩ := chosen
          have lead : pivot.leading ≠ 0 := by
            intro zero
            -- Then all leading coefficients vanish, and the first unknown is free.
            have free := trivial (Fin.cons 1 0) fun e member => by
              have leading := largest e member
              rw [zero, abs_zero, abs_nonpos_iff] at leading
              rw [homogeneous_holds_cons, leading]
              simp
            exact absurd (congrFun free 0) one_ne_zero
          rw [if_neg (by simpa using lead)]
          obtain ⟨x, solved⟩ := @ih (remaining.map (pivot.eliminate (1 / pivot.leading))) <| by
            intro x vanishing
            have usable : pivot.homogeneous.leading ≠ 0 := lead
            have pivotHolds := holds_backSubstitute usable (Vector.ofFn x)
            rw [Vec.get_ofFn] at pivotHolds
            have extended := trivial _ fun e member => by
              rcases List.mem_cons.mp (perm.mem_iff.mpr member) with rfl | later
              · exact pivotHolds
              · have eliminated := vanishing _ (List.mem_map_of_mem later)
                rw [homogeneous_eliminate] at eliminated
                exact (eliminate_holds usable pivotHolds).mp eliminated
            funext i
            exact congrFun extended i.succ
          rw [solved]
          exact ⟨_, rfl⟩

/-- Elimination returns a point only when nothing but zero makes all left sides vanish, by induction
over the unknowns: the others are zero by what is left, and then the pivot makes the first one zero.
-/
theorem eq_zero_of_solve? {equations : List (Equation K n)} {point : Vector K n}
    (solved : solve? n equations = some point) {x : Fin n → K}
    (vanishing : ∀ e ∈ equations, e.homogeneous.Holds x)
    : x = 0 := by
  induction n with
  | zero => exact Subsingleton.elim _ _
  | succ n ih =>
      cases equations with
      | nil => cases solved
      | cons first rest =>
          have perm := choosePivot_perm first rest
          simp only [solve?] at solved
          generalize choosePivot first rest = chosen at perm solved
          obtain ⟨pivot, remaining⟩ := chosen
          split at solved
          · cases solved
          rename_i usable
          obtain ⟨others, inner, rfl⟩ := Option.map_eq_some_iff.mp solved
          have lead : pivot.leading ≠ 0 := by simpa using usable
          obtain ⟨a, y, rfl⟩ : ∃ a y, x = Fin.cons a y := ⟨_, _, (Fin.cons_self_tail x).symm⟩
          have pivotHolds := vanishing pivot (perm.mem_iff.mp List.mem_cons_self)
          have rest_zero : y = 0 := ih inner fun e member => by
            obtain ⟨e, later, rfl⟩ := List.mem_map.mp member
            rw [homogeneous_eliminate]
            have original := vanishing e (perm.mem_iff.mp (List.mem_cons_of_mem _ later))
            exact (eliminate_holds (show pivot.homogeneous.leading ≠ 0 from lead) pivotHolds).mpr
              original
          rw [rest_zero, homogeneous_holds_cons, dotProduct_zero, add_zero] at pivotHolds
          have first_zero : a = 0 := (mul_eq_zero.mp pivotHolds).resolve_left lead
          rw [first_zero, rest_zero]
          exact Matrix.cons_zero_zero

end Equation

/-- A returned vector solves the system, because each stored row is one of the equations. -/
theorem Dense.mulVec_of_solve? {K : Type} [Field K] [LinearOrder K] {n : Nat} {a : Dense K n n}
    {b x : Vector K n} (solved : a.solve? b = some x)
    : a.toMatrix *ᵥ x.get = b.get := by
  have holds := Equation.solve?_holds (by simp) solved
  funext i
  refine holds ⟨a.get i, b.get i⟩ (List.mem_iff_getElem.mpr ⟨i, by simp, ?_⟩)
  simp [Vec.get_eq_getElem]

/-- A nonsingular system has a returned solution, as its matrix sends only zero to zero. -/
theorem Dense.exists_solve? {K : Type} [Field K] [LinearOrder K] [IsStrictOrderedRing K] {n : Nat}
    {a : Dense K n n} (nonsingular : a.toMatrix.det ≠ 0) (b : Vector K n)
    : ∃ x, a.solve? b = some x := by
  refine Equation.exists_solve? fun x vanishing => ?_
  refine Matrix.eq_zero_of_mulVec_eq_zero nonsingular (funext fun i => ?_)
  refine vanishing ⟨a.get i, b.get i⟩ (List.mem_iff_getElem.mpr ⟨i, by simp, ?_⟩)
  simp [Vec.get_eq_getElem]

/-- A system that has a returned solution is nonsingular. -/
theorem Dense.det_ne_zero_of_solve? {K : Type} [Field K] [LinearOrder K] {n : Nat} {a : Dense K n n}
    {b x : Vector K n} (solved : a.solve? b = some x)
    : a.toMatrix.det ≠ 0 := by
  intro singular
  obtain ⟨v, nonzero, vanishes⟩ := Matrix.exists_mulVec_eq_zero_iff.mpr singular
  refine nonzero (Equation.eq_zero_of_solve? solved fun e member => ?_)
  obtain ⟨i, hi, rfl⟩ := List.mem_iff_getElem.mp member
  have row : (a.toMatrix *ᵥ v) ⟨i, by simpa using hi⟩ = 0 := congrFun vanishes _
  rw [Equation.Holds, Equation.homogeneous, Vector.getElem_toList, Vector.getElem_zipWith]
  exact row

end QuadraticTrials
