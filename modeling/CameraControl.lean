import CameraControl.Camera
import CameraControl.Camera.Frames
import CameraControl.Camera.Overlay
import CameraControl.Camera.Subscription
import CameraControl.Device
import CameraControl.Driver.Access
import CameraControl.Driver.Call
import CameraControl.Driver.FrameQueue
import CameraControl.Driver.State
import CameraControl.Driver.Step
import CameraControl.Entries
import CameraControl.Enumeration
import CameraControl.Family
import CameraControl.Fault
import CameraControl.Feature
import CameraControl.Feature.Lookup
import CameraControl.Json.Number
import CameraControl.Json.Reader
import CameraControl.Json.Value
import CameraControl.Library.Backend
import CameraControl.Library.Foreign
import CameraControl.Library.Loading
import CameraControl.Main
import CameraControl.Number.Binary64
import CameraControl.Number.Decimal
import CameraControl.Number.Integer
import CameraControl.Proofs.Camera.Enumerating
import CameraControl.Proofs.Camera.GivingBack
import CameraControl.Proofs.Camera.Glancing
import CameraControl.Proofs.Camera.Locks
import CameraControl.Proofs.Camera.Looking
import CameraControl.Proofs.Camera.Overlay
import CameraControl.Proofs.Camera.Prefix
import CameraControl.Proofs.Camera.Refusal
import CameraControl.Proofs.Camera.Sessions
import CameraControl.Proofs.Camera.Texts
import CameraControl.Proofs.Camera.Uniform
import CameraControl.Proofs.Camera.Uses
import CameraControl.Proofs.Driver.Capability
import CameraControl.Proofs.Driver.Choices
import CameraControl.Proofs.Driver.Closing
import CameraControl.Proofs.Driver.Coherence
import CameraControl.Proofs.Driver.Content
import CameraControl.Proofs.Driver.Devices
import CameraControl.Proofs.Driver.Effects
import CameraControl.Proofs.Driver.Frames
import CameraControl.Proofs.Driver.Lending
import CameraControl.Proofs.Driver.Locality
import CameraControl.Proofs.Driver.Make
import CameraControl.Proofs.Driver.Orders
import CameraControl.Proofs.Driver.Procedure
import CameraControl.Proofs.Driver.Ranges
import CameraControl.Proofs.Driver.Refusal
import CameraControl.Proofs.Driver.Retirement
import CameraControl.Proofs.Driver.Run
import CameraControl.Proofs.Driver.Snapshot
import CameraControl.Proofs.Driver.Soundness
import CameraControl.Proofs.Driver.Spelling
import CameraControl.Proofs.Driver.Visit
import CameraControl.Proofs.Driver.Written
import CameraControl.Proofs.Entries
import CameraControl.Proofs.Library.Forwarding
import CameraControl.Proofs.Library.Lifecycle
import CameraControl.Proofs.Names
import CameraControl.Proofs.Number.Digits
import CameraControl.Proofs.Number.Integers
import CameraControl.Proofs.Number.Rounding
import CameraControl.Proofs.Number.Shortest
import CameraControl.Proofs.Script.Choices
import CameraControl.Proofs.Script.Closing
import CameraControl.Proofs.Script.Dealing
import CameraControl.Proofs.Script.Enrolment
import CameraControl.Proofs.Script.Frames
import CameraControl.Proofs.Script.GivingBack
import CameraControl.Proofs.Script.Holding
import CameraControl.Proofs.Script.Judgement
import CameraControl.Proofs.Script.Lasting
import CameraControl.Proofs.Script.Locks
import CameraControl.Proofs.Script.Move
import CameraControl.Proofs.Script.Parts
import CameraControl.Proofs.Script.Precall
import CameraControl.Proofs.Script.ReadBack
import CameraControl.Proofs.Script.Refusal
import CameraControl.Proofs.Script.Registration
import CameraControl.Proofs.Script.Retirement
import CameraControl.Proofs.Script.Round
import CameraControl.Proofs.Script.Soundness
import CameraControl.Proofs.Script.Uniform
import CameraControl.Proofs.Settings.Fitting
import CameraControl.Proofs.Settings.RoundTrip
import CameraControl.Proofs.Terminal.Acquisition
import CameraControl.Proofs.Terminal.Applying
import CameraControl.Proofs.Terminal.Arguments
import CameraControl.Proofs.Terminal.Borrowing
import CameraControl.Proofs.Terminal.Ranges
import CameraControl.Proofs.Terminal.ReadBack
import CameraControl.Proofs.Text.Wide
import CameraControl.Proofs.Timeout
import CameraControl.Proofs.Toml.Encoding
import CameraControl.Proofs.Toml.Lexing
import CameraControl.Proofs.Toml.Lines
import CameraControl.Proofs.Toml.Numerals
import CameraControl.Proofs.Toml.Scalars
import CameraControl.Proofs.World.Accounting
import CameraControl.Proofs.World.Backend
import CameraControl.Proofs.World.Change
import CameraControl.Proofs.World.Closing
import CameraControl.Proofs.World.Enrolment
import CameraControl.Proofs.World.Interleaving
import CameraControl.Proofs.World.Judgement
import CameraControl.Proofs.World.Liveness
import CameraControl.Proofs.World.Locality
import CameraControl.Proofs.World.Nesting
import CameraControl.Proofs.World.Orders
import CameraControl.Proofs.World.Quiet
import CameraControl.Proofs.World.Registration
import CameraControl.Proofs.World.Replay
import CameraControl.Proofs.World.Round
import CameraControl.Proofs.World.Spelling
import CameraControl.Proofs.World.Trail
import CameraControl.Proofs.World.Transcript
import CameraControl.Proofs.World.Turn
import CameraControl.Script.Run
import CameraControl.Script.Step
import CameraControl.Settings
import CameraControl.Settings.Json
import CameraControl.Settings.Toml
import CameraControl.Status
import CameraControl.Terminal.Arguments
import CameraControl.Terminal.Commands
import CameraControl.Terminal.FileTree
import CameraControl.Terminal.Files
import CameraControl.Text.Blank
import CameraControl.Text.Hexadecimal
import CameraControl.Text.Lowercase
import CameraControl.Text.Quoted
import CameraControl.Text.Unseen
import CameraControl.Text.Wide
import CameraControl.Timeout
import CameraControl.Toml.Document
import CameraControl.Toml.Number
import CameraControl.Toml.Section
import CameraControl.Toml.Token
import CameraControl.Toml.Value
import CameraControl.World
