import DuckTypes.Main
import DuckTypes.Store
import DuckTypes.Store.Describe
import DuckTypes.Proofs.ByteOrder
import DuckTypes.Proofs.CandidateSet
import DuckTypes.Proofs.NamedSets
import DuckTypes.Proofs.VersionedCache
import DuckTypes.Proofs.Path
import DuckTypes.Proofs.FileTree
import DuckTypes.Proofs.Glob.Listing
import DuckTypes.Proofs.Glob.Pattern
import DuckTypes.Proofs.Glob.Expand
import DuckTypes.Proofs.Recording
import DuckTypes.Proofs.Toml.Document
import DuckTypes.Proofs.Text
import DuckTypes.Proofs.LanguageVersion
import DuckTypes.Proofs.Arguments
import DuckTypes.Proofs.LineIndex
import DuckTypes.Proofs.Settings
import DuckTypes.Proofs.Glob.Matching
import DuckTypes.Proofs.Settings.Admission
import DuckTypes.Proofs.MemberTable
import DuckTypes.Proofs.Action
import DuckTypes.Proofs.ReferenceLog
import DuckTypes.Proofs.Source.Nodes
import DuckTypes.Proofs.Source.Traversal
import DuckTypes.Proofs.Store.Registry
import DuckTypes.Proofs.Store.Table
import DuckTypes.Proofs.Store.Filling
import DuckTypes.Proofs.Store.Memo
import DuckTypes.Proofs.Store.Effect
import DuckTypes.Proofs.Store.History
import DuckTypes.Proofs.Store.Coherence
import DuckTypes.Proofs.Store.PresentAnswers
import DuckTypes.Proofs.Store.Growth
import DuckTypes.Proofs.Store.WellFormed
import DuckTypes.Proofs.Store.Enumeration
import DuckTypes.Proofs.Store.Making
import DuckTypes.Proofs.Store.Conservation
import DuckTypes.Proofs.Store.Methods
import DuckTypes.Proofs.Store.Origin
import DuckTypes.Proofs.Store.Session
import DuckTypes.Proofs.Store.SessionInvariant
import DuckTypes.Proofs.Store.Roles
import DuckTypes.Proofs.Store.ClientAnswers
import DuckTypes.Proofs.Store.Noninterference
import DuckTypes.Proofs.Survey.Trace
import DuckTypes.Proofs.Survey.Progress
import DuckTypes.Proofs.Survey.Refinement
import DuckTypes.Proofs.Survey.AsyncIteration
import DuckTypes.Proofs.Survey.Collect
import DuckTypes.Proofs.Survey.Independence
import DuckTypes.Proofs.Store.Iteration
import DuckTypes.Proofs.Store.Monotonicity
import DuckTypes.Proofs.Store.Repetition
import DuckTypes.Proofs.Store.MemberProtocol
import DuckTypes.Proofs.Store.Insertion
import DuckTypes.Proofs.Store.Decoding
import DuckTypes.Proofs.Store.References
import DuckTypes.Proofs.Store.Collapse
import DuckTypes.Proofs.Reconciliation
import DuckTypes.Proofs.Json.Quoted
import DuckTypes.Proofs.Json.Value
import DuckTypes.Proofs.Description.Wire
