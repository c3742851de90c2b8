import UiSurface.Command.Api
import UiSurface.Command.Arguments
import UiSurface.Command.Cell
import UiSurface.Command.Entry
import UiSurface.Command.Files
import UiSurface.Command.Help
import UiSurface.Command.Local
import UiSurface.Command.Program
import UiSurface.Command.Remote
import UiSurface.Component.Basic
import UiSurface.Component.Decode
import UiSurface.Component.Table
import UiSurface.DataModel.Overlay
import UiSurface.DataModel.Path
import UiSurface.DataModel.Tree
import UiSurface.Design.Basic
import UiSurface.Design.Personal
import UiSurface.Design.Preview
import UiSurface.Design.Save
import UiSurface.Design.Storage
import UiSurface.Device.Backoff
import UiSurface.Device.Client
import UiSurface.Device.Frame
import UiSurface.Device.Registry
import UiSurface.Device.Session
import UiSurface.Json.Basic
import UiSurface.Json.Depth
import UiSurface.Json.Encoded
import UiSurface.Json.Reader
import UiSurface.Json.Shape
import UiSurface.Json.Writer
import UiSurface.Main
import UiSurface.Message.Basic
import UiSurface.Message.Decode
import UiSurface.Message.Envelope
import UiSurface.Message.LineStream
import UiSurface.Message.Text
import UiSurface.Number.Basic
import UiSurface.Number.Binary64
import UiSurface.Number.Decimal
import UiSurface.Number.Grouped
import UiSurface.Number.Numeral
import UiSurface.Problem
import UiSurface.Record
import UiSurface.Reference.Binding
import UiSurface.Reference.Clock
import UiSurface.Reference.Token
import UiSurface.Settings
import UiSurface.Store.Apply
import UiSurface.Store.Basic
import UiSurface.Store.Batch
import UiSurface.Surface.Basic
import UiSurface.Surface.Render
import UiSurface.Text.Blank
import UiSurface.Text.CaseRun
import UiSurface.Text.Cased
import UiSurface.Text.CodePoint
import UiSurface.Text.Codec
import UiSurface.Text.CombiningClass
import UiSurface.Text.Composed
import UiSurface.Text.Composite
import UiSurface.Text.DecimalDigit
import UiSurface.Text.Encoding
import UiSurface.Text.Joining
import UiSurface.Text.Lines
import UiSurface.Text.LowerCase
import UiSurface.Text.Mark
import UiSurface.Text.Printable
import UiSurface.Text.Quoted
import UiSurface.Text.Ranges
import UiSurface.Text.Replace
import UiSurface.Text.Script
import UiSurface.Text.UpperCase
import UiSurface.Text.Utf8
import UiSurface.Validation
import UiSurface.Web.Answer
import UiSurface.Web.Body
import UiSurface.Web.Domain.Alphabet
import UiSurface.Web.Domain.Context
import UiSurface.Web.Domain.Direction
import UiSurface.Web.Domain.Label
import UiSurface.Web.Domain.Name
import UiSurface.Web.Domain.Punycode
import UiSurface.Web.Host
import UiSurface.Web.Numeric
import UiSurface.Web.Percent
import UiSurface.Web.Request
import UiSurface.Web.Resource
import UiSurface.Web.Service
import UiSurface.Web.Status
import UiSurface.Web.Target
import UiSurface.Web.Url
import UiSurface.Proofs.Agreement
import UiSurface.Proofs.Import
import UiSurface.Proofs.Encoding
import UiSurface.Proofs.Steps
import UiSurface.Proofs.Reachable
import UiSurface.Proofs.Export
import UiSurface.Proofs.Replay
import UiSurface.Proofs.Redelivery
import UiSurface.Proofs.WellFormed
import UiSurface.Proofs.Locality
import UiSurface.Proofs.Handles
import UiSurface.Proofs.Live
import UiSurface.Proofs.Renderable
import UiSurface.Proofs.Saving
import UiSurface.Proofs.Pushing
import UiSurface.Proofs.Independence
import UiSurface.Proofs.Verdicts
import UiSurface.Proofs.OtherSurfaces
import UiSurface.Proofs.Keeping
import UiSurface.Proofs.Previewing
import UiSurface.Proofs.References
import UiSurface.Proofs.Codec
import UiSurface.Proofs.Reports
import UiSurface.Proofs.Gate
import UiSurface.Proofs.Turns
import UiSurface.Proofs.Ownership
import UiSurface.Proofs.Rounds
import UiSurface.Proofs.Shelving
import UiSurface.Proofs.Copies
import UiSurface.Proofs.Listing
import UiSurface.Proofs.Causes
import UiSurface.Proofs.Course
import UiSurface.Proofs.Delays
import UiSurface.Proofs.Following
import UiSurface.Proofs.Pacing
import UiSurface.Proofs.Stopping
import UiSurface.Proofs.Refusals
import UiSurface.Proofs.Listening
import UiSurface.Proofs.Branches
import UiSurface.Proofs.MemberOrder
import UiSurface.Proofs.Grafts
import UiSurface.Proofs.Tips
import UiSurface.Proofs.Commuting
import UiSurface.Proofs.Bindings
import UiSurface.Proofs.Hereditary
import UiSurface.Proofs.Reading
import UiSurface.Proofs.Writable
import UiSurface.Proofs.Resolving
import UiSurface.Proofs.Walks
import UiSurface.Proofs.Outlines
import UiSurface.Proofs.Replacing
import UiSurface.Proofs.Expanding
import UiSurface.Proofs.Chunks
import UiSurface.Proofs.InStrings
import UiSurface.Proofs.ObjectTexts
import UiSurface.Proofs.Ignoring
import UiSurface.Proofs.LineReaders
import UiSurface.Proofs.Overlaying
import UiSurface.Proofs.Retaining
import UiSurface.Proofs.Extensions
import UiSurface.Proofs.Confinement
import UiSurface.Proofs.ExitStatus
import UiSurface.Proofs.Subscriptions
import UiSurface.Proofs.Histories
import UiSurface.Proofs.Placing
import UiSurface.Proofs.ArrayTexts
import UiSurface.Proofs.Ascii
import UiSurface.Proofs.ArrayLines
