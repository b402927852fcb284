import Warrant.Authorizer
import Warrant.Binding
import Warrant.Block
import Warrant.Dump
import Warrant.Expression
import Warrant.FactSet
import Warrant.Join
import Warrant.Json.Decode
import Warrant.Json.Read
import Warrant.Json.Value
import Warrant.Limits
import Warrant.Naming
import Warrant.Origin
import Warrant.Proofs.Acceptance
import Warrant.Proofs.Answers
import Warrant.Proofs.Asking
import Warrant.Proofs.Attenuation
import Warrant.Proofs.Balance
import Warrant.Proofs.Brought
import Warrant.Proofs.Calls
import Warrant.Proofs.Capacity
import Warrant.Proofs.Coverage
import Warrant.Proofs.Decision
import Warrant.Proofs.Drafts
import Warrant.Proofs.DumpText
import Warrant.Proofs.Evaluations
import Warrant.Proofs.Exhaustive
import Warrant.Proofs.Extension
import Warrant.Proofs.Faults
import Warrant.Proofs.Finiteness
import Warrant.Proofs.Formed
import Warrant.Proofs.Gathered
import Warrant.Proofs.Hearing
import Warrant.Proofs.History
import Warrant.Proofs.Indexes
import Warrant.Proofs.Interning
import Warrant.Proofs.Interruption
import Warrant.Proofs.JsonText
import Warrant.Proofs.Keys
import Warrant.Proofs.Layers
import Warrant.Proofs.Legible
import Warrant.Proofs.Listing
import Warrant.Proofs.Loadable
import Warrant.Proofs.Lockstep
import Warrant.Proofs.Matching
import Warrant.Proofs.Meaning
import Warrant.Proofs.Naive
import Warrant.Proofs.Noninterference
import Warrant.Proofs.Numbering
import Warrant.Proofs.Ordered
import Warrant.Proofs.Orderly
import Warrant.Proofs.Outcome
import Warrant.Proofs.Places
import Warrant.Proofs.Program
import Warrant.Proofs.Provenance
import Warrant.Proofs.Readback
import Warrant.Proofs.Reading
import Warrant.Proofs.Rearranged
import Warrant.Proofs.Refinement
import Warrant.Proofs.Reliance
import Warrant.Proofs.Retention
import Warrant.Proofs.Saturation
import Warrant.Proofs.Session
import Warrant.Proofs.Steps
import Warrant.Proofs.Tables
import Warrant.Proofs.Transfers
import Warrant.Proofs.Translation
import Warrant.Proofs.Transparency
import Warrant.Proofs.Unification
import Warrant.Proofs.Valuation
import Warrant.Proofs.Values
import Warrant.Proofs.Visits
import Warrant.Proofs.Wording
import Warrant.Regex.CharSet
import Warrant.Regex.Node
import Warrant.Regex.Pattern
import Warrant.Regex.Size
import Warrant.Render
import Warrant.Rule
import Warrant.Sorted
import Warrant.Statement
import Warrant.Symbols
import Warrant.Term
import Warrant.Text.Quoted
import Warrant.Text.Search
import Warrant.Text.Timestamp
import Warrant.Unicode.Category
import Warrant.Unicode.Fold
import Warrant.Unicode.Property
import Warrant.Unicode.Runs
import Warrant.Unicode.Script
import Warrant.Wire
import Warrant.World
