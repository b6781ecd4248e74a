import ScriptPress.Main
import ScriptPress.Request.File
import ScriptPress.Service.Answer
import ScriptPress.Service.Endpoint
import ScriptPress.Service.Payload
import ScriptPress.Session
import ScriptPress.Text.Ending
import ScriptPress.Proofs.Script.Lines
import ScriptPress.Proofs.Script.Scanning
import ScriptPress.Proofs.Request.Assembly
import ScriptPress.Proofs.Request.Literals
import ScriptPress.Proofs.Script.Reading
import ScriptPress.Proofs.Session.History
import ScriptPress.Proofs.Session.Staleness
import ScriptPress.Proofs.Cli.Inference
import ScriptPress.Proofs.Language.Spelling
import ScriptPress.Proofs.Cli.Agreement
import ScriptPress.Proofs.Requirement.Grammar
import ScriptPress.Proofs.Session.Provenance
import ScriptPress.Proofs.Request.Refusal
import ScriptPress.Proofs.Request.NormalForm
import ScriptPress.Proofs.Request.Controls
import ScriptPress.Proofs.Run.Log
import ScriptPress.Proofs.Run.World
import ScriptPress.Proofs.Cli.Pairs
import ScriptPress.Proofs.Cli.Answers
import ScriptPress.Proofs.Cli.FieldAnswers
import ScriptPress.Proofs.Cli.BodyAnswers
import ScriptPress.Proofs.Cli.Interview
import ScriptPress.Proofs.Cli.Delivery
import ScriptPress.Proofs.Cli.Limit
import ScriptPress.Proofs.Request.Entries
import ScriptPress.Proofs.Cli.Overlay
import ScriptPress.Proofs.Json.Layout
import ScriptPress.Proofs.Yaml.Quoted
import ScriptPress.Proofs.Yaml.Skipping
import ScriptPress.Proofs.Yaml.Emission
import ScriptPress.Proofs.Yaml.FlowTokens
import ScriptPress.Proofs.Yaml.FlowMapping
import ScriptPress.Proofs.Request.JsonFile
import ScriptPress.Proofs.Session.Rendering
import ScriptPress.Proofs.Run.Sequence
import ScriptPress.Proofs.Service.Reply
import ScriptPress.Proofs.Cli.Results
import ScriptPress.Proofs.Cli.Influence
import ScriptPress.Proofs.Cli.Trial
import ScriptPress.Proofs.Cli.Atomicity
import ScriptPress.Proofs.Requirement.Division
import ScriptPress.Proofs.Script.Guards
import ScriptPress.Proofs.Script.Nesting
import ScriptPress.Proofs.Text.Octets
import ScriptPress.Proofs.Json.Strings
import ScriptPress.Proofs.Json.Grammar
import ScriptPress.Proofs.Json.Numbers
import ScriptPress.Proofs.Json.Values
import ScriptPress.Proofs.Json.Writing
import ScriptPress.Proofs.Service.Payload
import ScriptPress.Proofs.Request.Mapping
import ScriptPress.Proofs.Service.Addresses
import ScriptPress.Proofs.Version.GemGrammar
import ScriptPress.Proofs.Version.Padding
import ScriptPress.Proofs.Json.Fields
import ScriptPress.Proofs.Language.Resolution
import ScriptPress.Proofs.Service.Classification
import ScriptPress.Proofs.Script.Inside
import ScriptPress.Proofs.Cli.BodyFile
