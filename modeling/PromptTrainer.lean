import PromptTrainer.Json.Basic
import PromptTrainer.Decimal.Shortest
import PromptTrainer.Decimal.Nearest
import PromptTrainer.Decimal.Text
import PromptTrainer.Json.Print
import PromptTrainer.Json.Parse
import PromptTrainer.Schema.Type
import PromptTrainer.Schema.Validation
import PromptTrainer.Schema.Build
import PromptTrainer.Schema.JsonSchema
import PromptTrainer.Record.Basic
import PromptTrainer.Shapes
import PromptTrainer.Request.Failure
import PromptTrainer.Request.Spec
import PromptTrainer.Request.Schemas
import PromptTrainer.Json.Decode
import PromptTrainer.Json.Typed
import PromptTrainer.Timestamp
import PromptTrainer.Variable.Basic
import PromptTrainer.Variable.Codec
import PromptTrainer.StableSort
import PromptTrainer.Ranking
import PromptTrainer.Request.Variables
import PromptTrainer.Store.Basic
import PromptTrainer.Store.Snapshot
import PromptTrainer.Store.Call
import PromptTrainer.Generation.Request
import PromptTrainer.Generation.Scripted
import PromptTrainer.Pipeline.Node
import PromptTrainer.Optimizer.Basic
import PromptTrainer.Training.Hook
import PromptTrainer.Workbench.Basic
import PromptTrainer.Pipeline.Run
import PromptTrainer.Optimizer.Pass
import PromptTrainer.Optimizer.Interleaving
import PromptTrainer.Training.Report
import PromptTrainer.Training.Trainer
import PromptTrainer.Request.Errors
import PromptTrainer.Request.Modules
import PromptTrainer.Request.Chat
import PromptTrainer.Request.Session
import PromptTrainer.Template.Syntax
import PromptTrainer.Template.Lex
import PromptTrainer.Template.Parse
import PromptTrainer.Template.Render
import PromptTrainer.Text.Basic
import PromptTrainer.Text.Unicode
import PromptTrainer.Generation.Prompt
import PromptTrainer.Request.Prompts
import PromptTrainer.Request.Config
import PromptTrainer.Yaml.Token
import PromptTrainer.Yaml.Scanner.State
import PromptTrainer.Yaml.Scanner.Scalars
import PromptTrainer.Yaml.Scanner.Tags
import PromptTrainer.Yaml.Scanner
import PromptTrainer.Yaml.Event
import PromptTrainer.Yaml.Document
import PromptTrainer.Yaml.Scalar
import PromptTrainer.Yaml.Read
import PromptTrainer.Config.Basic
import PromptTrainer.Config.Read
import PromptTrainer.Config.Codec
import PromptTrainer.Generation.Http
import PromptTrainer.Generation.Chat
import PromptTrainer.Generation.Model
import PromptTrainer.Pipeline.Config
import PromptTrainer.Optimizer.Config
import PromptTrainer.Storage.Files
import PromptTrainer.Training.App
import PromptTrainer.Request.App
import PromptTrainer.Request.Answer
import PromptTrainer.Proofs.Work
import PromptTrainer.Proofs.Pass
import PromptTrainer.Proofs.Store
import PromptTrainer.Proofs.Commit
import PromptTrainer.Proofs.Serial
import PromptTrainer.Proofs.StableSort
import PromptTrainer.Proofs.Ranking
import PromptTrainer.Proofs.Pool
import PromptTrainer.Proofs.Epoch
import PromptTrainer.Proofs.Training
import PromptTrainer.Proofs.Literals
import PromptTrainer.Proofs.Nested
import PromptTrainer.Proofs.Narrowing
import PromptTrainer.Proofs.SchemaDocument
import PromptTrainer.Proofs.Normalization
import PromptTrainer.Proofs.Containment
import PromptTrainer.Proofs.Composition
import PromptTrainer.Proofs.KeyOrder
import PromptTrainer.Proofs.Versions
import PromptTrainer.Proofs.Calendar
import PromptTrainer.Proofs.TimestampText
import PromptTrainer.Proofs.VariableJson
import PromptTrainer.Proofs.Snapshot
import PromptTrainer.Proofs.TypeEquality
import PromptTrainer.Proofs.Associativity
import PromptTrainer.Proofs.Revalidation
import PromptTrainer.Proofs.RecordInvariant
import PromptTrainer.Proofs.HookTrace
import PromptTrainer.Proofs.Rounding
import PromptTrainer.Proofs.Evaluation
import PromptTrainer.Proofs.ProgramTraining
import PromptTrainer.Proofs.SchemaOperations
import PromptTrainer.Proofs.Concatenation
import PromptTrainer.Proofs.ModelFailures
import PromptTrainer.Proofs.StableMerge
import PromptTrainer.Proofs.MergeOfRuns
import PromptTrainer.Proofs.StableQuicksort
import PromptTrainer.Proofs.RankingOrder
import PromptTrainer.Proofs.VariableRecords
import PromptTrainer.Proofs.ModuleConfigs
import PromptTrainer.Proofs.Singles
import PromptTrainer.Proofs.Resolution
import PromptTrainer.Proofs.DoubleValues
import PromptTrainer.Proofs.EnumLiterals
import PromptTrainer.Proofs.StructuredOutput
import PromptTrainer.Proofs.Recognizers
import PromptTrainer.Proofs.ChainOfThought
import PromptTrainer.Proofs.Atomicity
