import Fixture.Calendar.Clock
import Fixture.Calendar.Date
import Fixture.Calendar.Iso
import Fixture.Catalog.Basic
import Fixture.Catalog.Document
import Fixture.Catalog.Load
import Fixture.CommandLine.Arguments
import Fixture.CommandLine.Run
import Fixture.Construction
import Fixture.Decimal.Rounding
import Fixture.Decimal.Shortest
import Fixture.Definition
import Fixture.Description
import Fixture.Emission
import Fixture.Files.Expand
import Fixture.Files.Folder
import Fixture.Files.Pattern
import Fixture.Files.Volume
import Fixture.Json.Flaw
import Fixture.Json.Reader
import Fixture.Json.Record
import Fixture.Json.Scalar
import Fixture.Ledger
import Fixture.Literal
import Fixture.Main
import Fixture.Name
import Fixture.Obstacle
import Fixture.Outcome
import Fixture.Plan
import Fixture.Proofs.Binding
import Fixture.Proofs.Calendar.Clock
import Fixture.Proofs.Calendar.Date
import Fixture.Proofs.Calendar.Iso
import Fixture.Proofs.Catalog.Admission
import Fixture.Proofs.Catalog.Growth
import Fixture.Proofs.Catalog.History
import Fixture.Proofs.Catalog.Joined
import Fixture.Proofs.Catalog.Legible
import Fixture.Proofs.Catalog.Loaded
import Fixture.Proofs.Catalog.Merged
import Fixture.Proofs.Catalog.Reachable
import Fixture.Proofs.Catalog.SimpleName
import Fixture.Proofs.Catalog.Written
import Fixture.Proofs.CommandLine.Generation
import Fixture.Proofs.Construction.Agreement
import Fixture.Proofs.Construction.Changed
import Fixture.Proofs.Construction.Course
import Fixture.Proofs.Construction.Cycle
import Fixture.Proofs.Construction.Delivered
import Fixture.Proofs.Construction.Expansion
import Fixture.Proofs.Construction.Ignored
import Fixture.Proofs.Construction.Limits
import Fixture.Proofs.Construction.Naming
import Fixture.Proofs.Construction.Nesting
import Fixture.Proofs.Construction.Origin
import Fixture.Proofs.Construction.Outline
import Fixture.Proofs.Construction.Parameters
import Fixture.Proofs.Construction.Parts
import Fixture.Proofs.Construction.Population
import Fixture.Proofs.Construction.Renamed
import Fixture.Proofs.Construction.Reordered
import Fixture.Proofs.Construction.SameModule
import Fixture.Proofs.Construction.SimpleRoot
import Fixture.Proofs.Construction.Steps
import Fixture.Proofs.Construction.Support
import Fixture.Proofs.Construction.Trail
import Fixture.Proofs.Construction.Typing
import Fixture.Proofs.Construction.Unrelated
import Fixture.Proofs.Construction.Walk
import Fixture.Proofs.Decimal.Rounding
import Fixture.Proofs.Description
import Fixture.Proofs.Double
import Fixture.Proofs.Emission
import Fixture.Proofs.Except
import Fixture.Proofs.Files.Paths
import Fixture.Proofs.Files.Places
import Fixture.Proofs.Files.Writing
import Fixture.Proofs.Ledger
import Fixture.Proofs.Ledger.Least
import Fixture.Proofs.Literal.Plain
import Fixture.Proofs.Literal.Quoted
import Fixture.Proofs.Literal.Reader
import Fixture.Proofs.Obstacle
import Fixture.Proofs.Plan
import Fixture.Proofs.Random.Below
import Fixture.Proofs.Registry
import Fixture.Proofs.Rendering
import Fixture.Proofs.Scope
import Fixture.Proofs.Strategy
import Fixture.Proofs.Supply
import Fixture.Proofs.Ty.Contents
import Fixture.Proofs.Ty.Display
import Fixture.Proofs.Ty.Grammar
import Fixture.Proofs.Ty.Parsed
import Fixture.Proofs.Ty.Places
import Fixture.Proofs.Ty.Reading
import Fixture.Proofs.Ty.Renamed
import Fixture.Proofs.Ty.Rules
import Fixture.Proofs.Ty.Spelling
import Fixture.Proofs.Ty.Viable
import Fixture.Proofs.Ty.Written
import Fixture.Random.Keystream
import Fixture.Random.Source
import Fixture.Registry
import Fixture.Settings
import Fixture.Shape
import Fixture.Supply
import Fixture.Text.Utf8
import Fixture.Text.Visible
import Fixture.Ty.Basic
import Fixture.Ty.Parser
import Fixture.Unicode.Alphabetic
import Fixture.Unicode.Case
import Fixture.Unicode.Intervals
import Fixture.Unicode.Numeric
import Fixture.Unicode.Printable
import Fixture.Unicode.Space
