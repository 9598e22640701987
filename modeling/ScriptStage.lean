import ScriptStage.Builtins
import ScriptStage.Config.Codec
import ScriptStage.Config.Properties
import ScriptStage.Message.Codec
import ScriptStage.Proofs.Worker.Delivery
import ScriptStage.Transformer
import ScriptStage.Proofs.Worker.Schedule
import ScriptStage.Proofs.Config.Validity
import ScriptStage.Proofs.History
import ScriptStage.Proofs.Properties.Spelling
import ScriptStage.Proofs.Properties.Written
import ScriptStage.Proofs.Properties.Breaks
import ScriptStage.Proofs.Properties.Infer
import ScriptStage.Proofs.Variables.Inline
import ScriptStage.Proofs.Properties.Numbered
import ScriptStage.Proofs.Source.Written
import ScriptStage.Proofs.Source.Expressible
import ScriptStage.Proofs.Config.SingleLine
import ScriptStage.Proofs.Worker.Lifecycle
import ScriptStage.Proofs.Embedded
import ScriptStage.Proofs.Deadline
import ScriptStage.Proofs.Json.Reading
import ScriptStage.Proofs.Json.Numbers
import ScriptStage.Proofs.Json.Values
import ScriptStage.Proofs.Json.Records
import ScriptStage.Proofs.Message.RoundTrip
import ScriptStage.Proofs.Text.Utf8
import ScriptStage.Proofs.Startup
import ScriptStage.Proofs.Config.Equivalent
import ScriptStage.Proofs.Registry
import ScriptStage.Proofs.Worker.Wire
import ScriptStage.Proofs.Properties.Meaning
import ScriptStage.Proofs.Properties.Entries
import ScriptStage.Proofs.Variables.File
import ScriptStage.Proofs.Variables.Override
import ScriptStage.Proofs.Json.Grammar
import ScriptStage.Proofs.Json.Ignored
import ScriptStage.Proofs.Json.Members
import ScriptStage.Proofs.Config.Document
import ScriptStage.Proofs.Decimal.Doubles
import ScriptStage.Proofs.Properties.Scalars
import ScriptStage.Proofs.Properties.Separators
import ScriptStage.Proofs.Config.Overriding
import ScriptStage.Proofs.Failure.Views
import ScriptStage.Proofs.Files
import ScriptStage.Proofs.Language
import ScriptStage.Proofs.Decimal.Rounding
import ScriptStage.Proofs.Json.Range
import ScriptStage.Proofs.Json.Accepted
import ScriptStage.Proofs.Json.Layout
import ScriptStage.Proofs.Worker.Documents
import ScriptStage.Proofs.Worker.Answers
import ScriptStage.Proofs.Worker.InStep
import ScriptStage.Proofs.Decimal.Values
import ScriptStage.Proofs.Json.Leaves
