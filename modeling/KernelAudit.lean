import KernelAudit.Main
import KernelAudit.Program.World
import KernelAudit.Proofs.Log
import KernelAudit.Proofs.Sorting.Inputs
import KernelAudit.Proofs.Sorting.Loop
import KernelAudit.Proofs.Sorting.Order
import KernelAudit.Proofs.Sorting.Trials
import KernelAudit.Proofs.Sorting.Agreement
import KernelAudit.Proofs.Check.Order
import KernelAudit.Proofs.Check.Run
import KernelAudit.Proofs.Check.Executed
import KernelAudit.Proofs.Json.Reading
import KernelAudit.Proofs.Json.Fields
import KernelAudit.Proofs.Json.Arrangement
import KernelAudit.Proofs.Report.Decoding
import KernelAudit.Proofs.Machine.FileSystem
import KernelAudit.Proofs.Machine.Course
import KernelAudit.Proofs.Probe.Launch
import KernelAudit.Proofs.Shell.Pattern
import KernelAudit.Proofs.Shell.State
import KernelAudit.Proofs.Shell.Arithmetic
import KernelAudit.Proofs.Tool.Regex
import KernelAudit.Proofs.Program.Saving
import KernelAudit.Proofs.Program.Documents
import KernelAudit.Proofs.Report.Arrangement
import KernelAudit.Proofs.Program.Comparing
import KernelAudit.Proofs.Program.OwnBaseline
import KernelAudit.Proofs.Report.Comparison
import KernelAudit.Proofs.Report.Grouping
import KernelAudit.Proofs.Xml.Grammar
import KernelAudit.Proofs.Xml.Document
import KernelAudit.Proofs.Xml.Reading
import KernelAudit.Proofs.Xml.Escaping
import KernelAudit.Proofs.Report.JUnit
import KernelAudit.Proofs.Report.Suites
import KernelAudit.Proofs.Report.Quiet
import KernelAudit.Proofs.Report.Totals
import KernelAudit.Proofs.CommandLine.Scan
import KernelAudit.Proofs.CommandLine.Options
import KernelAudit.Proofs.Program.HarnessExit
import KernelAudit.Proofs.Program.HarnessOptions
import KernelAudit.Proofs.Kernel.QuickSort
import KernelAudit.Proofs.Kernel.Fibonacci
import KernelAudit.Proofs.Kernel.Partition
import KernelAudit.Proofs.Binary.Single
import KernelAudit.Proofs.Binary.Rounding
import KernelAudit.Proofs.Binary.Arithmetic
import KernelAudit.Proofs.Numeric.Ring
import KernelAudit.Proofs.Sorting.Conforming
import KernelAudit.Proofs.Numeric.Functions
import KernelAudit.Proofs.Check.Summary
import KernelAudit.Proofs.Check.Conforming
import KernelAudit.Proofs.Check.Chosen
import KernelAudit.Proofs.Numeric.Agreement
import KernelAudit.Proofs.Numeric.Exactness
import KernelAudit.Proofs.Check.FailFast
import KernelAudit.Proofs.Check.Timeout
import KernelAudit.Proofs.Check.Shadowing
import KernelAudit.Proofs.Check.Containment
import KernelAudit.Proofs.Check.Chains
import KernelAudit.Proofs.Check.Stability
import KernelAudit.Proofs.Check.Coupling
import KernelAudit.Proofs.Check.Family
import KernelAudit.Proofs.Check.Isolation
import KernelAudit.Proofs.Kernel.Accesses
import KernelAudit.Proofs.Kernel.Ranges
import KernelAudit.Proofs.Sorting.Course
import KernelAudit.Proofs.Sorting.Composition
import KernelAudit.Proofs.Numeric.Course
import KernelAudit.Proofs.Numeric.Description
import KernelAudit.Proofs.Numeric.Halting
import KernelAudit.Proofs.Numeric.Refusal
