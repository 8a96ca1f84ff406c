import DisplaySurface.Bench.Basic
import DisplaySurface.Bench.Rehearsal
import DisplaySurface.Bench.Run
import DisplaySurface.Buffer.Shape
import DisplaySurface.Buffer.Slot
import DisplaySurface.Buffer.Usage
import DisplaySurface.Cli.Sweep
import DisplaySurface.Config.Basic
import DisplaySurface.Config.Document
import DisplaySurface.Config.Error
import DisplaySurface.Config.File
import DisplaySurface.Config.Reader
import DisplaySurface.Crash
import DisplaySurface.Decimal.Shortest
import DisplaySurface.Decimal.Written
import DisplaySurface.Handoff
import DisplaySurface.Interface
import DisplaySurface.Json.Fault
import DisplaySurface.Json.Lexeme
import DisplaySurface.Json.Number
import DisplaySurface.Json.Skip
import DisplaySurface.Json.Written
import DisplaySurface.Lifecycle
import DisplaySurface.Machine.Basic
import DisplaySurface.Machine.Step
import DisplaySurface.Output.Command
import DisplaySurface.Output.Headless
import DisplaySurface.Picture.Canvas
import DisplaySurface.Picture.Layer
import DisplaySurface.Picture.Painter
import DisplaySurface.Picture.Snapshot
import DisplaySurface.Session.Basic
import DisplaySurface.Session.Calls
import DisplaySurface.Session.Worker
import DisplaySurface.SessionError
import DisplaySurface.System
import DisplaySurface.Text.Basic
import DisplaySurface.Text.Quoted
import DisplaySurface.Visibility
import DisplaySurface.Main
import DisplaySurface.Proofs.Machine.Backing
import DisplaySurface.Proofs.Machine.Accounts
import DisplaySurface.Proofs.Machine.Career
import DisplaySurface.Proofs.Machine.Containment
import DisplaySurface.Proofs.Machine.Finality
import DisplaySurface.Proofs.Machine.Journal
import DisplaySurface.Proofs.Machine.Lending
import DisplaySurface.Proofs.Machine.Lifetime
import DisplaySurface.Proofs.Machine.Moves
import DisplaySurface.Proofs.Machine.Numbering
import DisplaySurface.Proofs.Machine.Outcomes
import DisplaySurface.Proofs.Machine.Passing
import DisplaySurface.Proofs.Machine.Pinning
import DisplaySurface.Proofs.Machine.WakeUps
import DisplaySurface.Proofs.Machine.Depiction
import DisplaySurface.Proofs.Machine.Endurance
import DisplaySurface.Proofs.Machine.Flight
import DisplaySurface.Proofs.Machine.Freshness
import DisplaySurface.Proofs.Machine.Hiding
import DisplaySurface.Proofs.Machine.Promotion
import DisplaySurface.Proofs.Machine.Recorder
import DisplaySurface.Proofs.Picture.Pixels
import DisplaySurface.Proofs.Picture.Stacking
import DisplaySurface.Proofs.Picture.Store
import DisplaySurface.Proofs.Refinement.Contract
import DisplaySurface.Proofs.World.Refusals
import DisplaySurface.Proofs.World.Reports
import DisplaySurface.Proofs.World.Returns
import DisplaySurface.Proofs.World.Tenancy
import DisplaySurface.Proofs.Picture.Redrawing
import DisplaySurface.Proofs.Text.Numerals
import DisplaySurface.Proofs.Json.Grammar
import DisplaySurface.Proofs.Json.Skipping
import DisplaySurface.Proofs.Json.Reading
import DisplaySurface.Proofs.Buffer.UsageText
import DisplaySurface.Proofs.Config.Values
import DisplaySurface.Proofs.Config.Sections
import DisplaySurface.Proofs.Config.Overrides
import DisplaySurface.Proofs.Config.RoundTrip
import DisplaySurface.Proofs.Cli.Rounds
import DisplaySurface.Proofs.Cli.Course
import DisplaySurface.Proofs.Cli.Report
import DisplaySurface.Proofs.Picture.Points
import DisplaySurface.Proofs.Picture.Counting
import DisplaySurface.Proofs.Picture.Failures
import DisplaySurface.Proofs.Output.Bookkeeping
import DisplaySurface.Proofs.Handoff.Lanes
