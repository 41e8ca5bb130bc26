import Contracts.About
import Contracts.Catalog
import Contracts.Catalog.Description
import Contracts.Catalog.Document
import Contracts.Catalog.Registry
import Contracts.CommandLine
import Contracts.CommandLine.Arguments
import Contracts.CommandLine.Course
import Contracts.CommandLine.Verdict
import Contracts.Definition.Interface
import Contracts.Definition.Kind
import Contracts.Definition.Shape
import Contracts.Dict
import Contracts.Dict.Lemmas
import Contracts.Event
import Contracts.Files.Fault
import Contracts.Files.Path
import Contracts.Files.Tree
import Contracts.Format.Definition
import Contracts.Format.Document
import Contracts.Format.Fields
import Contracts.Format.Policy
import Contracts.Heap.Application
import Contracts.Heap.Call
import Contracts.Heap.Display
import Contracts.Heap.Exchange
import Contracts.Heap.Inspect
import Contracts.Heap.Opened
import Contracts.Heap.Routine
import Contracts.Heap.Store
import Contracts.Heap.Tree
import Contracts.Heap.Value
import Contracts.Host
import Contracts.Instance.Frozen
import Contracts.Instance.Record
import Contracts.Instance.Slot
import Contracts.Journal
import Contracts.Journal.Archive
import Contracts.Journal.Entry
import Contracts.Journal.Line
import Contracts.Json
import Contracts.Json.Fault
import Contracts.Json.Reader
import Contracts.Json.Scanner
import Contracts.Json.Skip
import Contracts.Main
import Contracts.Number
import Contracts.Number.Decimal
import Contracts.Number.Shortest
import Contracts.Number.Style
import Contracts.Policy
import Contracts.Session
import Contracts.Session.Action
import Contracts.Session.Expression
import Contracts.Session.Holding
import Contracts.Text.Blank
import Contracts.Text.Identifier
import Contracts.Text.Labelled
import Contracts.Text.Quoted
import Contracts.Text.SingleLine
import Contracts.Text.Visible
import Contracts.Violation
import Contracts.World
import Contracts.Proofs.Catalog.Definitions
import Contracts.Proofs.Catalog.Declarations
import Contracts.Proofs.Catalog.Namespace
import Contracts.Proofs.Catalog.Check
import Contracts.Proofs.Catalog.Replay
import Contracts.Proofs.Catalog.SelfContained
import Contracts.Proofs.Heap.Custody
import Contracts.Proofs.Session.Confinement
import Contracts.Proofs.Session.Custody
import Contracts.Proofs.Session.OwnRecord
import Contracts.Proofs.Catalog.Reordered
import Contracts.Proofs.Heap.Application
import Contracts.Proofs.Heap.Routine
import Contracts.Proofs.Heap.CallTree
import Contracts.Proofs.Heap.Layers
import Contracts.Proofs.Session.Refusals
import Contracts.Proofs.Session.Seeding
import Contracts.Proofs.Format.RoundTrip
import Contracts.Proofs.Json.Grammar
import Contracts.Proofs.Json.Exact
import Contracts.Proofs.Json.Numeral
import Contracts.Proofs.Json.Forms
import Contracts.Proofs.Json.Fields
import Contracts.Proofs.Number.Range
import Contracts.Proofs.Json.Magnitude
import Contracts.Proofs.Json.Meaning
import Contracts.Proofs.Format.Grammar
import Contracts.Proofs.Format.Acceptance
import Contracts.Proofs.CommandLine.Conformance
import Contracts.Proofs.CommandLine.Described
import Contracts.Proofs.Heap.Changes
import Contracts.Proofs.Definition.Kind
import Contracts.Proofs.Session.KindChecks
import Contracts.Proofs.Session.Handles
import Contracts.Proofs.Session.Provenance
import Contracts.Proofs.Session.Lasting
import Contracts.Proofs.Session.SlotContents
import Contracts.Proofs.Catalog.Lineage
import Contracts.Proofs.Catalog.Permanence
import Contracts.Proofs.Heap.Paths
import Contracts.Proofs.Number
import Contracts.Proofs.Heap.Exchange
import Contracts.Proofs.Session.Reload
import Contracts.Proofs.Event
import Contracts.Proofs.Session.Deed
import Contracts.Proofs.Session.Perform
import Contracts.Proofs.Session.LogLines
import Contracts.Proofs.Session.Rejections
import Contracts.Proofs.Session.Discretion
import Contracts.Proofs.Number.Nearest
import Contracts.Proofs.Json.WellFormed
import Contracts.Proofs.Json.Normal
import Contracts.Proofs.Journal
import Contracts.Proofs.Definition.Shape
import Contracts.Proofs.Journal.Panics
import Contracts.Proofs.Heap.Nesting
import Contracts.Proofs.Heap.Sameness
import Contracts.Proofs.Heap.Book
import Contracts.Proofs.Session.Functions
import Contracts.Proofs.Session.Identity
