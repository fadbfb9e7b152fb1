import QuadraticTrials.Arguments
import QuadraticTrials.CommandLine
import QuadraticTrials.Comparison
import QuadraticTrials.Config
import QuadraticTrials.Conic.Balance
import QuadraticTrials.Conic.Embedding
import QuadraticTrials.Conic.Factor
import QuadraticTrials.Conic.Measures
import QuadraticTrials.Conic.Problem
import QuadraticTrials.Conic.Solver
import QuadraticTrials.Conic.Sparse
import QuadraticTrials.Conic.Start
import QuadraticTrials.Conic.Step
import QuadraticTrials.Conic.System
import QuadraticTrials.Decimal.Binary
import QuadraticTrials.Decimal.Literal
import QuadraticTrials.Decimal.NumberText
import QuadraticTrials.Decimal.Reading
import QuadraticTrials.Decimal.Rounded
import QuadraticTrials.Decimal.Shortest
import QuadraticTrials.Dense
import QuadraticTrials.Digest
import QuadraticTrials.Elimination
import QuadraticTrials.Error
import QuadraticTrials.FloatSpectrum
import QuadraticTrials.Generator
import QuadraticTrials.Instance
import QuadraticTrials.InteriorPoint.Iterate
import QuadraticTrials.InteriorPoint.Newton
import QuadraticTrials.InteriorPoint.Progress
import QuadraticTrials.InteriorPoint.Run
import QuadraticTrials.InteriorPoint.Solver
import QuadraticTrials.InteriorPoint.Start
import QuadraticTrials.Json.Decoding
import QuadraticTrials.Json.Tree
import QuadraticTrials.Json.Value
import QuadraticTrials.Listing
import QuadraticTrials.Main
import QuadraticTrials.Outcome
import QuadraticTrials.Program
import QuadraticTrials.Random
import QuadraticTrials.Report
import QuadraticTrials.Reporter.Basic
import QuadraticTrials.Reporter.Console
import QuadraticTrials.Scalar
import QuadraticTrials.Solution
import QuadraticTrials.Solver.Basic
import QuadraticTrials.Solver.Deadline
import QuadraticTrials.Solver.Parallel
import QuadraticTrials.Solver.StandIn
import QuadraticTrials.Spectrum
import QuadraticTrials.Summary
import QuadraticTrials.Sweep
import QuadraticTrials.Trial
import QuadraticTrials.Proofs.Exact.Scalar
import QuadraticTrials.Proofs.Exact.Dense
import QuadraticTrials.Proofs.Exact.Relabelling
import QuadraticTrials.Proofs.Exact.Elimination
import QuadraticTrials.Proofs.Exact.Instance
import QuadraticTrials.Proofs.InteriorPoint.Newton
import QuadraticTrials.Proofs.InteriorPoint.NewtonSystem
import QuadraticTrials.Proofs.Comparable
import QuadraticTrials.Proofs.InteriorPoint.Search
import QuadraticTrials.Proofs.InteriorPoint.Boundary
import QuadraticTrials.Proofs.InteriorPoint.StepLength
import QuadraticTrials.Proofs.InteriorPoint.Interior
import QuadraticTrials.Proofs.InteriorPoint.Contraction
import QuadraticTrials.Proofs.InteriorPoint.Descent
import QuadraticTrials.Proofs.InteriorPoint.Centering
import QuadraticTrials.Proofs.InteriorPoint.Certificate
import QuadraticTrials.Proofs.Exact.Convexity
import QuadraticTrials.Proofs.Generator.Spectrum
import QuadraticTrials.Proofs.Ordered
import QuadraticTrials.Proofs.Uniform
import QuadraticTrials.Proofs.InteriorPoint.Halving
import QuadraticTrials.Proofs.Generator.WellPosed
import QuadraticTrials.Proofs.Generator.Alignment
import QuadraticTrials.Proofs.InteriorPoint.Solvable
import QuadraticTrials.Proofs.Finite
import QuadraticTrials.Proofs.Distance
import QuadraticTrials.Proofs.Sweep.Transcript
import QuadraticTrials.Proofs.Sweep.Accounting
import QuadraticTrials.Proofs.Sweep.Agreement
import QuadraticTrials.Proofs.CommandLine
import QuadraticTrials.Proofs.InteriorPoint.Cutoff
import QuadraticTrials.Proofs.InteriorPoint.Display
import QuadraticTrials.Proofs.InteriorPoint.Termination
import QuadraticTrials.Proofs.InteriorPoint.Relabelling
import QuadraticTrials.Proofs.InteriorPoint.EqualityOnly
import QuadraticTrials.Proofs.Solver.Calls
import QuadraticTrials.Proofs.Solver.Deadline
import QuadraticTrials.Proofs.Sweep.Endings
import QuadraticTrials.Proofs.Sweep.TrialCount
import QuadraticTrials.Proofs.Sweep.Simulation
import QuadraticTrials.Proofs.Sweep.Console
import QuadraticTrials.Proofs.Sweep.Abort
import QuadraticTrials.Proofs.Sweep.Replay
import QuadraticTrials.Proofs.Sweep.SideBySide
import QuadraticTrials.Proofs.Sweep.Exchange
import QuadraticTrials.Proofs.Sweep.Comparison
import QuadraticTrials.Proofs.Conic.Sparse
import QuadraticTrials.Proofs.Conic.Problem
import QuadraticTrials.Proofs.Unsized.Operations
import QuadraticTrials.Proofs.Unsized.Method
import QuadraticTrials.Proofs.Unsized.Refinement
import QuadraticTrials.Proofs.Unsized.Safety
import QuadraticTrials.Proofs.InteriorPoint.Symmetry
import QuadraticTrials.Proofs.Conic.EmptyBlock
import QuadraticTrials.Proofs.Json.Numbers
import QuadraticTrials.Proofs.Json.Strings
import QuadraticTrials.Proofs.Json.ReadBack
import QuadraticTrials.Proofs.Json.Doubles
import QuadraticTrials.Proofs.Decimal.Interval
import QuadraticTrials.Proofs.Decimal.Shortest
import QuadraticTrials.Proofs.Decimal.Literals
import QuadraticTrials.Proofs.Json.Values
import QuadraticTrials.Proofs.Json.Records
import QuadraticTrials.Proofs.Json.Formats
import QuadraticTrials.Proofs.Json.Stored
import QuadraticTrials.Proofs.Json.Identity
import QuadraticTrials.Proofs.Json.Blanks
import QuadraticTrials.Proofs.Json.Reordering
import QuadraticTrials.Proofs.Exact.Rayleigh
import QuadraticTrials.Proofs.Generator.Definiteness
import QuadraticTrials.Proofs.Generator.Rescaling
import QuadraticTrials.Proofs.Spoiling
import QuadraticTrials.Proofs.InteriorPoint.Stopping
import QuadraticTrials.Proofs.Reporter.Lines
import QuadraticTrials.Proofs.Reporter.Fields
import QuadraticTrials.Proofs.Reporter.Session
