import Mathlib
import QuadraticTrials.Proofs.Comparable

/-!
The search of one move. It tries the corrected step, then the damped step at every halved length;
a move advances by a tried step that is long enough and improving, and stalls when there is none.
-/

namespace QuadraticTrials.Program

variable {K : Type} [Scalar K] {n m p : Nat} {prog : Program K n m p} {fraction : K}
  {r : Record K n m p} {affine dir : Direction K n m p} {length : K}

-----------------------------------------------------------------------------------------
-- Tried steps
-----------------------------------------------------------------------------------------

/-- A length after some halvings. -/
def halve (halvings : Nat) (length : K) : K :=
  (· * Scalar.ratio 1 2)^[halvings] length

/-- A corrected direction is found at a visited point. -/
inductive Corrected (prog : Program K n m p) (r : Record K n m p)
    : (affine dir : Direction K n m p) → Prop
  | found {affine dir : Direction K n m p} (predicted : prog.affineDirection? r = some affine)
      (corrected : prog.correctedDirection? r affine = some dir)
    : Corrected prog r affine dir

/-- A damped direction is found at a visited point, as the corrected one does not improve. -/
inductive Damped (prog : Program K n m p) (fraction : K) (r : Record K n m p)
    : (dir : Direction K n m p) → Prop
  | found {affine refused dir : Direction K n m p} (corrected : prog.Corrected r affine refused)
      (refusal : ¬prog.improves r refused (firstLength fraction r refused))
      (damped : prog.dampedDirection? r affine = some dir)
    : Damped prog fraction r dir

/-- A step of some length along some direction belongs to the search. -/
inductive Tries (prog : Program K n m p) (fraction : K) (r : Record K n m p)
    : Direction K n m p → K → Prop
  | corrected {affine dir : Direction K n m p} (found : prog.Corrected r affine dir)
    : Tries prog fraction r dir (firstLength fraction r dir)
  | damped {dir : Direction K n m p} (found : prog.Damped fraction r dir) (halvings : Nat)
    : Tries prog fraction r dir (halve halvings (firstLength fraction r dir))

/-- A step is long enough and improving. -/
structure Acceptable (prog : Program K n m p) (r : Record K n m p) (dir : Direction K n m p)
    (length : K)
    : Prop where
  long : minStep ≤ length
  improving : prog.improves r dir length

/-- A step that a move takes: the full Newton step without inequality rows, else a tried step
that is acceptable.
-/
inductive Takes (prog : Program K n m p) (fraction : K) (r : Record K n m p)
    : Direction K n m p → K → Prop
  | full {dir : Direction K n m p} (free : m = 0) (found : prog.affineDirection? r = some dir)
    : Takes prog fraction r dir 1
  | searched {dir : Direction K n m p} {length : K} (bounded : 0 < m)
      (tried : prog.Tries fraction r dir length) (acceptable : prog.Acceptable r dir length)
    : Takes prog fraction r dir length

/-- The search finds every direction that it looks for. -/
inductive Regular (prog : Program K n m p) (fraction : K) (r : Record K n m p) : Prop
  | corrected {affine dir : Direction K n m p} (found : prog.Corrected r affine dir)
      (improving : prog.improves r dir (firstLength fraction r dir))
  | damped {dir : Direction K n m p} (found : prog.Damped fraction r dir)

/-- Every tried direction is a Newton direction for some complementarity target. -/
theorem Tries.isNewton (tried : prog.Tries fraction r dir length)
    : ∃ target, prog.direction? r.iterate r.residuals target = some dir := by
  cases tried with
  | corrected found =>
      cases found with
      | found predicted corrected => exact ⟨_, corrected⟩
  | damped found halvings =>
      cases found with
      | found corrected refusal damped => exact ⟨_, damped⟩

/-- Every taken direction is a Newton direction for some complementarity target. -/
theorem Takes.isNewton (taken : prog.Takes fraction r dir length)
    : ∃ target, prog.direction? r.iterate r.residuals target = some dir := by
  cases taken with
  | full free found => exact ⟨_, found⟩
  | searched bounded tried acceptable => exact tried.isNewton

/-- Without inequality rows only the full step is taken. -/
theorem Takes.length_eq_one (taken : prog.Takes fraction r dir length) (free : m = 0)
    : length = 1 := by
  cases taken with
  | full free found => rfl
  | searched bounded tried acceptable => exact absurd free bounded.ne'

/-- With inequality rows only acceptable steps are taken. -/
theorem Takes.acceptable (taken : prog.Takes fraction r dir length) (bounded : 0 < m)
    : prog.Acceptable r dir length := by
  cases taken with
  | full free found => exact absurd free bounded.ne'
  | searched bounded tried acceptable => exact acceptable

/-- At most one corrected direction is found. -/
theorem Corrected.unique {affine' dir' : Direction K n m p} (left : prog.Corrected r affine dir)
    (right : prog.Corrected r affine' dir')
    : affine' = affine ∧ dir' = dir := by
  cases left with
  | found predicted corrected =>
      cases right with
      | found predicted' corrected' =>
          cases predicted.symm.trans predicted'
          cases corrected.symm.trans corrected'
          exact ⟨rfl, rfl⟩

/-- At most one damped direction is found. -/
theorem Damped.unique {dir' : Direction K n m p} (left : prog.Damped fraction r dir)
    (right : prog.Damped fraction r dir')
    : dir' = dir := by
  cases left with
  | found corrected refusal damped =>
      cases right with
      | found corrected' refusal' damped' =>
          obtain ⟨rfl, rfl⟩ := corrected.unique corrected'
          cases damped.symm.trans damped'
          rfl

-----------------------------------------------------------------------------------------
-- Backtracking
-----------------------------------------------------------------------------------------

theorem halve_zero : halve 0 length = length :=
  rfl

theorem halve_succ (halvings : Nat)
    : halve (halvings + 1) length = halve halvings (length * Scalar.ratio 1 2) :=
  rfl

/-- Backtracking finds a halved length that is long enough and accepted, by induction on the
trials.
-/
theorem backtrack_eq_some {accept : K → Bool} {trials : Nat} {found : K}
    (searched : backtrack accept trials length = some found)
    : minStep ≤ found ∧ accept found ∧ ∃ halvings, found = halve halvings length := by
  induction trials generalizing length with
  | zero => cases searched
  | succ trials ih =>
      simp only [backtrack] at searched
      split at searched
      · rename_i long
        split at searched
        · rename_i accepted
          cases searched
          exact ⟨long, accepted, 0, halve_zero.symm⟩
        · obtain ⟨found_long, accepted, halvings, rfl⟩ := ih searched
          exact ⟨found_long, accepted, halvings + 1, (halve_succ halvings).symm⟩
      · cases searched

/-- When backtracking finds nothing, no halved length within the trials is accepted unless a
shorter one came before it, by induction on the trials.
-/
theorem backtrack_eq_none {accept : K → Bool} {trials : Nat}
    (searched : backtrack accept trials length = none) {halvings : Nat} (within : halvings < trials)
    (long : ∀ earlier ≤ halvings, minStep ≤ halve earlier length)
    : ¬accept (halve halvings length) := by
  induction trials generalizing length halvings with
  | zero => cases within
  | succ trials ih =>
      have first : minStep ≤ length := long 0 (Nat.zero_le _)
      rw [backtrack, if_pos first] at searched
      split at searched
      · cases searched
      rename_i refused
      cases halvings with
      | zero => exact refused
      | succ halvings =>
          rw [halve_succ]
          refine ih searched (Nat.lt_of_succ_lt_succ within) fun earlier le => ?_
          simpa only [halve_succ] using long (earlier + 1) (Nat.succ_le_succ le)

-----------------------------------------------------------------------------------------
-- Moves
-----------------------------------------------------------------------------------------

/-- What a move can be: one constructor for each way through the search. -/
inductive Searches (prog : Program K n m p) (fraction : K) (r : Record K n m p)
    : Move K n m p → Prop
  | full {dir : Direction K n m p} (free : m = 0) (found : prog.affineDirection? r = some dir)
    : Searches prog fraction r (.advance (r.iterate.advance dir 1) 1)
  | corrected {affine dir : Direction K n m p} (bounded : 0 < m)
      (found : prog.Corrected r affine dir)
      (improving : prog.improves r dir (firstLength fraction r dir))
      (notShort : ¬firstLength fraction r dir < minStep)
    : Searches prog fraction r
        (.advance (r.iterate.advance dir (firstLength fraction r dir))
          (firstLength fraction r dir))
  | short {affine dir : Direction K n m p} (bounded : 0 < m) (found : prog.Corrected r affine dir)
      (improving : prog.improves r dir (firstLength fraction r dir))
      (short : firstLength fraction r dir < minStep)
    : Searches prog fraction r .stalled
  | damped {dir : Direction K n m p} {length : K} (bounded : 0 < m)
      (found : prog.Damped fraction r dir)
      (searched
        : backtrack (prog.improves r dir) maxTrials (firstLength fraction r dir) = some length)
    : Searches prog fraction r (.advance (r.iterate.advance dir length) length)
  | exhausted {dir : Direction K n m p} (bounded : 0 < m) (found : prog.Damped fraction r dir)
      (searched : backtrack (prog.improves r dir) maxTrials (firstLength fraction r dir) = none)
    : Searches prog fraction r .stalled
  | singular (missing : ¬prog.Regular fraction r) : Searches prog fraction r .singular

/-- A search that finds its directions finds a corrected one first. -/
theorem Regular.exists_corrected (regular : prog.Regular fraction r)
    : ∃ affine dir, prog.affineDirection? r = some affine
        ∧ prog.correctedDirection? r affine = some dir := by
  cases regular with
  | corrected found improving =>
      cases found with
      | found predicted corrected => exact ⟨_, _, predicted, corrected⟩
  | damped found =>
      cases found with
      | found corrected refusal damped =>
          cases corrected with
          | found predicted corrected => exact ⟨_, _, predicted, corrected⟩

/-- No affine direction leaves the search without the others. -/
theorem not_regular_of_affine (missing : prog.affineDirection? r = none)
    : ¬prog.Regular fraction r := by
  intro regular
  obtain ⟨affine, dir, predicted, -⟩ := regular.exists_corrected
  cases missing.symm.trans predicted

/-- No corrected direction leaves the search without a damped one. -/
theorem not_regular_of_corrected (predicted : prog.affineDirection? r = some affine)
    (missing : prog.correctedDirection? r affine = none)
    : ¬prog.Regular fraction r := by
  intro regular
  obtain ⟨affine', dir, predicted', corrected⟩ := regular.exists_corrected
  cases predicted.symm.trans predicted'
  cases missing.symm.trans corrected

/-- After a corrected step that does not improve, the search needs a damped direction. -/
theorem not_regular_of_damped (found : prog.Corrected r affine dir)
    (refusal : ¬prog.improves r dir (firstLength fraction r dir))
    (missing : prog.dampedDirection? r affine = none)
    : ¬prog.Regular fraction r := by
  intro regular
  cases regular with
  | corrected found' improving =>
      obtain ⟨rfl, rfl⟩ := found.unique found'
      exact refusal improving
  | damped found' =>
      cases found' with
      | found found' refusal damped =>
          obtain ⟨rfl, rfl⟩ := found.unique found'
          cases missing.symm.trans damped

/-- The damped move searches along its direction, by following its branches. -/
theorem dampedMove_searches (bounded : 0 < m) (found : prog.Corrected r affine dir)
    (refusal : ¬prog.improves r dir (firstLength fraction r dir))
    : prog.Searches fraction r (prog.dampedMove fraction r affine) := by
  unfold dampedMove
  split
  · rename_i missing
    exact .singular (not_regular_of_damped found refusal missing)
  rename_i damped foundDamped
  have foundDamped : prog.Damped fraction r damped := .found found refusal foundDamped
  split
  · rename_i searched
    exact .exhausted bounded foundDamped searched
  · rename_i length searched
    exact .damped bounded foundDamped searched

/-- The corrected move searches along its direction and then the damped one, by following its
branches.
-/
theorem correctedMove_searches (bounded : 0 < m) (predicted : prog.affineDirection? r = some affine)
    : prog.Searches fraction r (prog.correctedMove fraction r affine) := by
  unfold correctedMove
  split
  · rename_i missing
    exact .singular (not_regular_of_corrected predicted missing)
  rename_i dir corrected
  have found : prog.Corrected r affine dir := .found predicted corrected
  simp only
  split
  · rename_i improving
    split
    · rename_i short
      exact .short bounded found improving short
    · rename_i notShort
      exact .corrected bounded found improving notShort
  · rename_i refusal
    exact dampedMove_searches bounded found refusal

/-- Every move is one of the ways through the search. -/
theorem move_searches (prog : Program K n m p) (fraction : K) (r : Record K n m p)
    : prog.Searches fraction r (prog.move fraction r) := by
  unfold move
  split
  · rename_i missing
    exact .singular (not_regular_of_affine missing)
  rename_i affine predicted
  split
  · rename_i free
    exact .full free predicted
  · rename_i bounded
    exact correctedMove_searches (Nat.pos_of_ne_zero bounded) predicted

/-- A stalled move has found every direction that it looked for. -/
theorem regular_of_stalled (stalled : prog.move fraction r = .stalled)
    : 0 < m ∧ prog.Regular fraction r := by
  have searches := prog.move_searches fraction r
  rw [stalled] at searches
  cases searches with
  | short bounded found improving short => exact ⟨bounded, .corrected found improving⟩
  | exhausted bounded found searched => exact ⟨bounded, .damped found⟩

/-- A move that meets a singular system has missed a direction that it looked for. -/
theorem not_regular_of_singular (singular : prog.move fraction r = .singular)
    : ¬prog.Regular fraction r := by
  have searches := prog.move_searches fraction r
  rw [singular] at searches
  cases searches with
  | singular missing => exact missing

section Comparable

variable [Scalar.Comparable K]

/-- An improving step has a length that is related to itself, since every other length spoils the
bound on the merit.
-/
theorem length_related (improving : prog.improves r dir length) : length ≤ length := by
  have bound := Scalar.Comparable.related_of_le (of_decide_eq_true improving)
  have factor := Scalar.Comparable.related_of_mul_left bound
  exact Scalar.Comparable.related_of_mul_right (Scalar.Comparable.related_of_sub_right factor)

/-- A move advances by a step that it may take. -/
theorem takes_of_advance {next : Iterate K n m p}
    (advanced : prog.move fraction r = .advance next length)
    : ∃ dir, prog.Takes fraction r dir length ∧ next = r.iterate.advance dir length := by
  have searches := prog.move_searches fraction r
  rw [advanced] at searches
  cases searches with
  | full free found => exact ⟨_, .full free found, rfl⟩
  | corrected bounded found improving notShort =>
      have long := Scalar.Comparable.le_of_not_lt (length_related improving)
        Scalar.Comparable.minStep_related notShort
      exact ⟨_, .searched bounded (.corrected found) ⟨long, improving⟩, rfl⟩
  | damped bounded found searched =>
      obtain ⟨long, improving, halvings, rfl⟩ := backtrack_eq_some searched
      exact ⟨_, .searched bounded (.damped found halvings) ⟨long, improving⟩, rfl⟩

end Comparable

end QuadraticTrials.Program
