import QuadraticTrials.Error
import QuadraticTrials.Report

/-!
Where reports go. A reporter takes the reports of a sweep one by one and its totals at the end;
each of these may fail.
-/

namespace QuadraticTrials

/-- Why work stopped: an error that is reported, or a broken rule inside the program. -/
inductive Stop
  | failed (error : Error)
  | crashed
  deriving DecidableEq, Repr

/-- A receiver of reports with state of type `ρ`. -/
class Reporter (K : Type) (ρ : Type) where
  /-- Takes the report of one trial. -/
  publish : Report K → ρ → Except Stop Unit × ρ
  /-- Takes the number of trials and of failed trials, once at the end. -/
  finish (K) : (total failed : Nat) → ρ → Except Stop Unit × ρ
  /-- Takes the lines that the solvers show during a trial. -/
  relay (K) : List String → ρ → ρ

/-- A reporter that keeps everything. -/
structure Memory (K : Type) where
  reports : List (Report K)
  totals : Option (Nat × Nat)

namespace Memory

variable {K : Type}

def empty : Memory K :=
  ⟨[], none⟩

/-- The trials that failed. -/
def failures (m : Memory K) : List (Report K) :=
  m.reports.filter fun report => !report.verdict.isPassed

instance : Reporter K (Memory K) where
  publish report m := (.ok (), { m with reports := m.reports ++ [report] })
  finish total failed m := (.ok (), { m with totals := some (total, failed) })
  relay _ m := m

end Memory

end QuadraticTrials
