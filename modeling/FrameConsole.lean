import FrameConsole.Main
import FrameConsole.Template.Written
import FrameConsole.Template.Cursor
import FrameConsole.Proofs.Template.Grammar
import FrameConsole.Proofs.Template.Literals
import FrameConsole.Proofs.Template.Elements
import FrameConsole.Proofs.Template.Derivation
import FrameConsole.Proofs.Evaluation.Source
import FrameConsole.Proofs.Template.Concatenation
import FrameConsole.Proofs.Template.RoundTrip
import FrameConsole.Proofs.Commands.Standard
import FrameConsole.Proofs.Connection.History
import FrameConsole.Proofs.Connection.Lines
import FrameConsole.Proofs.Connection.Conservation
import FrameConsole.Proofs.Evaluation.Meaning
import FrameConsole.Proofs.Prompt.Dispatch
import FrameConsole.Proofs.Commands.Atomic
import FrameConsole.Proofs.Evaluation.Splice
import FrameConsole.Proofs.Text.HexPairs
import FrameConsole.Proofs.Commands.SentLines
import FrameConsole.Proofs.Prompt.Taking
import FrameConsole.Proofs.Json.Node
import FrameConsole.Proofs.Template.Document
import FrameConsole.Proofs.Commands.Payload
import FrameConsole.Proofs.Bindings.Changes
import FrameConsole.Proofs.Variables.History
import FrameConsole.Proofs.Registry.Takeover
import FrameConsole.Proofs.Evaluation.Mentioned
import FrameConsole.Proofs.Commands.News
import FrameConsole.Proofs.Program.Batch
import FrameConsole.Proofs.Text.Segments
import FrameConsole.Proofs.Template.FaultPlace
import FrameConsole.Proofs.Template.IntegerRange
import FrameConsole.Proofs.Program.Assignments
import FrameConsole.Proofs.Builtins.Answers
import FrameConsole.Proofs.Builtins.Demands
import FrameConsole.Proofs.Connection.Opening
import FrameConsole.Proofs.Variables.Identity
import FrameConsole.Proofs.Cursor.Steps
import FrameConsole.Proofs.Cursor.Safety
