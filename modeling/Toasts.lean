import Toasts.Agenda
import Toasts.Bounds
import Toasts.CommandLine
import Toasts.Configuration.Draft
import Toasts.Configuration.Folder
import Toasts.Configuration.Load
import Toasts.Configuration.Path
import Toasts.Configuration.Tree
import Toasts.Configuration.Variables
import Toasts.Console.Layout
import Toasts.Console.Picture
import Toasts.Console.Renderer
import Toasts.Console.Stage
import Toasts.Countdowns
import Toasts.Decimal.Binary
import Toasts.Decimal.Layout
import Toasts.Decimal.Nearest
import Toasts.Decimal.Shortest
import Toasts.Decode
import Toasts.Describe
import Toasts.Engine.State
import Toasts.Engine.Step
import Toasts.Failure
import Toasts.Fused
import Toasts.Geometry
import Toasts.Json.Number
import Toasts.Json.Reader
import Toasts.Json.Record
import Toasts.Json.Value
import Toasts.Lifespan
import Toasts.LogFilter
import Toasts.LogFilter.Directive
import Toasts.LogFilter.Verbosity
import Toasts.Main
import Toasts.Motion.Easing
import Toasts.Motion.Keyframe
import Toasts.Motion.Strategy
import Toasts.Motion.View
import Toasts.Names
import Toasts.Options
import Toasts.Playback
import Toasts.Promise
import Toasts.Proofs.Adoptions
import Toasts.Proofs.Agenda
import Toasts.Proofs.Announcements
import Toasts.Proofs.Appointments
import Toasts.Proofs.Autopilots
import Toasts.Proofs.Bookings
import Toasts.Proofs.Calls
import Toasts.Proofs.Changes
import Toasts.Proofs.Clearings
import Toasts.Proofs.Conservation
import Toasts.Proofs.Countdowns
import Toasts.Proofs.Creations
import Toasts.Proofs.Deliveries
import Toasts.Proofs.Encoded
import Toasts.Proofs.Endings
import Toasts.Proofs.Entrances
import Toasts.Proofs.ExitWindows
import Toasts.Proofs.Fields
import Toasts.Proofs.FirstPaints
import Toasts.Proofs.Goodbyes
import Toasts.Proofs.InStep
import Toasts.Proofs.Lapses
import Toasts.Proofs.Layers
import Toasts.Proofs.Lifecycles
import Toasts.Proofs.Lifetimes
import Toasts.Proofs.Loading
import Toasts.Proofs.Mirrors
import Toasts.Proofs.Moves
import Toasts.Proofs.OptionStacks
import Toasts.Proofs.Order
import Toasts.Proofs.Outcomes
import Toasts.Proofs.Partings
import Toasts.Proofs.Passive
import Toasts.Proofs.Pictures
import Toasts.Proofs.Records
import Toasts.Proofs.Refusals
import Toasts.Proofs.Removals
import Toasts.Proofs.Revisions
import Toasts.Proofs.Roll
import Toasts.Proofs.Run
import Toasts.Proofs.Sequels
import Toasts.Proofs.Served
import Toasts.Proofs.Settlements
import Toasts.Proofs.Showings
import Toasts.Proofs.Slots
import Toasts.Proofs.Staging
import Toasts.Proofs.Supersession
import Toasts.Proofs.Unsubscriptions
import Toasts.Proofs.Upshots
import Toasts.Proofs.Vigils
import Toasts.Proofs.Wishes
import Toasts.Proofs.Written
import Toasts.Scenario
import Toasts.Script
import Toasts.Session
import Toasts.Session.Acts
import Toasts.Session.Calls
import Toasts.Session.State
import Toasts.Settings
import Toasts.Span
import Toasts.Span.Text
import Toasts.Store
import Toasts.Text.Alphanumeric
import Toasts.Text.Blank
import Toasts.Text.Quoted
import Toasts.Text.Shapeless
import Toasts.Timekeeper
import Toasts.Timekeeper.Drill
import Toasts.Toast
import Toasts.Toast.View
import Toasts.Toml.Document
import Toasts.Toml.Moment
import Toasts.Toml.Quoted
import Toasts.Toml.Scalar
import Toasts.Toml.Statement
import Toasts.Toml.TableMoment
import Toasts.Toml.Value
