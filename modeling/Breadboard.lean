import Breadboard.Text.Utf8
import Breadboard.Text.Blank
import Breadboard.Text.Word
import Breadboard.Text.Digit
import Breadboard.Text.Printable
import Breadboard.Text.Case
import Breadboard.Number.Shortest
import Breadboard.Number.Numeral
import Breadboard.Text.Quoted
import Breadboard.Text.Literal
import Breadboard.Data.Value
import Breadboard.Data.Json.Reader
import Breadboard.Data.Json.Writer
import Breadboard.Reply.Envelope
import Breadboard.Reply.Firmware
import Breadboard.Reply.Settings
import Breadboard.Reply.NetTable
import Breadboard.Pattern.Search
import Breadboard.Board.Stock
import Breadboard.Board.Command
import Breadboard.Response.Engine
import Breadboard.Response.Stock
import Breadboard.Config.Reader
import Breadboard.Data.Yaml.Writer
import Breadboard.Data.Yaml.Reader
import Breadboard.Recording.Recorder
import Breadboard.Config.File
import Breadboard.Serial.Discovery
import Breadboard.Proxy.Traffic
import Breadboard.CommandLine.Tools
import Breadboard.Terminal.Transfer
import Breadboard.Emulator.Dispatch
import Breadboard.Emulator.Device
import Breadboard.Emulator.Tool
import Breadboard.Proxy.Tool
import Breadboard.Main
import Breadboard.Proofs.Recording.Session
import Breadboard.Proofs.Response.Placeholder
import Breadboard.Proofs.Response.Braces
import Breadboard.Proofs.Response.Cut
import Breadboard.Proofs.Response.Delivery
import Breadboard.Proofs.Recording.Replay
import Breadboard.Proofs.Board.Invariant
import Breadboard.Proofs.Data.Folder
import Breadboard.Proofs.Config.Recording
import Breadboard.Proofs.Terminal.Transfer
import Breadboard.Proofs.Emulator.Story
import Breadboard.Proofs.Emulator.Order
import Breadboard.Proofs.Proxy.Turn
import Breadboard.Proofs.Proxy.Transparency
import Breadboard.Proofs.Text.Trim
import Breadboard.Proofs.Emulator.Framing
import Breadboard.Proofs.Response.Tally
import Breadboard.Proofs.Text.Split
import Breadboard.Proofs.Number.Numeral
import Breadboard.Proofs.Reply.NetTable
import Breadboard.Proofs.Text.Digit
import Breadboard.Proofs.Board.Channels
import Breadboard.Proofs.Pattern.Row
import Breadboard.Proofs.Reply.Envelope
import Breadboard.Proofs.Reply.Settings
import Breadboard.Proofs.Response.Template
import Breadboard.Proofs.Response.Legible
import Breadboard.Proofs.Recording.Shadow
import Breadboard.Proofs.Config.Reading
import Breadboard.Proofs.Config.Accepted
import Breadboard.Proofs.Config.Spelling
import Breadboard.Proofs.Config.Reported
import Breadboard.Proofs.Terminal.Release
import Breadboard.Proofs.Proxy.Failure
import Breadboard.Proofs.Terminal.Custody
import Breadboard.Proofs.Serial.Search
import Breadboard.Proofs.Response.Independence
import Breadboard.Proofs.Emulator.Lifecycle
import Breadboard.Proofs.Board.Connections
import Breadboard.Proofs.Board.Written
import Breadboard.Proofs.Board.Request
import Breadboard.Proofs.Response.Sink
import Breadboard.Proofs.Response.Transmission
import Breadboard.Proofs.Board.Outputs
import Breadboard.Proofs.Response.Shares
import Breadboard.Proofs.Response.Pieces
import Breadboard.Proofs.Reply.Redraw
import Breadboard.Proofs.Reply.Accounting
import Breadboard.Proofs.Reply.Readings
import Breadboard.Proofs.Reply.Dump
import Breadboard.Proofs.Reply.Escapes
import Breadboard.Proofs.Reply.Printed
import Breadboard.Proofs.Serial.Hearing
import Breadboard.Proofs.Serial.Balance
import Breadboard.Proofs.Terminal.Course
import Breadboard.Proofs.Number.Span
import Breadboard.Proofs.Config.Duration
import Breadboard.Proofs.Config.Tables
import Breadboard.Proofs.Config.Model
import Breadboard.Proofs.Config.Respelling
import Breadboard.Proofs.Config.Identifiers
import Breadboard.Proofs.Response.Captures
