import CreditExtraction.Artifact.Bucket
import CreditExtraction.Artifact.Key
import CreditExtraction.Artifact.Open
import CreditExtraction.Artifact.Cache
import CreditExtraction.Artifact.Store
import CreditExtraction.Cli.Catalog
import CreditExtraction.Cli.Command
import CreditExtraction.Cli.Companions
import CreditExtraction.Cli.Creditx
import CreditExtraction.Cli.Flag
import CreditExtraction.Cli.Help
import CreditExtraction.Cli.Machine
import CreditExtraction.Cli.Run
import CreditExtraction.Cli.Watch
import CreditExtraction.Config.Decode
import CreditExtraction.Config.DotEnv
import CreditExtraction.Config.Read
import CreditExtraction.Config.Setting
import CreditExtraction.Config.Toml
import CreditExtraction.Digest.Md5
import CreditExtraction.Digest.Sha256
import CreditExtraction.Export.Review
import CreditExtraction.Export.Workbook
import CreditExtraction.Extraction.Candidate
import CreditExtraction.Failure
import CreditExtraction.Field.Coerce
import CreditExtraction.Field.Extracted
import CreditExtraction.Field.Merge
import CreditExtraction.Field.Value
import CreditExtraction.Files.Change
import CreditExtraction.Files.Tree
import CreditExtraction.Geometry
import CreditExtraction.Image.Header
import CreditExtraction.Image.Lettering
import CreditExtraction.Image.Raster
import CreditExtraction.Ingest.Directory
import CreditExtraction.Ingest.FileKind
import CreditExtraction.Ingest.Ingestor
import CreditExtraction.Ingest.Inspect
import CreditExtraction.Ingest.Watch
import CreditExtraction.Json.Decode
import CreditExtraction.Json.Dynamic
import CreditExtraction.Json.Parse
import CreditExtraction.Json.Pretty
import CreditExtraction.Json.Value
import CreditExtraction.JsonSchema.Compile
import CreditExtraction.JsonSchema.Number
import CreditExtraction.JsonSchema.Validate
import CreditExtraction.Lifecycle
import CreditExtraction.Llm.Extractor
import CreditExtraction.Llm.Http
import CreditExtraction.Llm.Ollama
import CreditExtraction.Llm.OpenAi
import CreditExtraction.Llm.Prompt
import CreditExtraction.Llm.Provider
import CreditExtraction.Llm.Recover
import CreditExtraction.Llm.Reply
import CreditExtraction.Llm.Sanitize
import CreditExtraction.Log.Handler
import CreditExtraction.Log.Record
import CreditExtraction.Net.Http
import CreditExtraction.Net.Url
import CreditExtraction.Ocr.Azure
import CreditExtraction.Ocr.Line
import CreditExtraction.Ocr.Normalize
import CreditExtraction.Ocr.Provider
import CreditExtraction.Ocr.Tesseract
import CreditExtraction.Ocr.Tsv
import CreditExtraction.Pdf.Object
import CreditExtraction.Pdf.Reader
import CreditExtraction.Pdf.Scan
import CreditExtraction.Pdf.Security
import CreditExtraction.Pipeline.Orchestrator
import CreditExtraction.Pipeline.Pool
import CreditExtraction.Pipeline.Retry
import CreditExtraction.Pipeline.Run
import CreditExtraction.Pipeline.Services
import CreditExtraction.Proofs.Sql.Conditions
import CreditExtraction.Proofs.Sql.Effects
import CreditExtraction.Proofs.Store.Ledger
import CreditExtraction.Schema.Config
import CreditExtraction.Schema.DocumentType
import CreditExtraction.Schema.Load
import CreditExtraction.Schema.Shipped
import CreditExtraction.Service.Health
import CreditExtraction.Service.Open
import CreditExtraction.Service.Settings
import CreditExtraction.Simulation.AnalyzeServer
import CreditExtraction.Simulation.BucketServer
import CreditExtraction.Simulation.CommandSession
import CreditExtraction.Simulation.DatabaseOpen
import CreditExtraction.Simulation.EntityView
import CreditExtraction.Simulation.Factories
import CreditExtraction.Simulation.FailureSpec
import CreditExtraction.Simulation.HealthSession
import CreditExtraction.Simulation.ModelServers
import CreditExtraction.Simulation.Network
import CreditExtraction.Simulation.Request
import CreditExtraction.Simulation.Scenario
import CreditExtraction.Simulation.StoreOpen
import CreditExtraction.Simulation.ToolScript
import CreditExtraction.Simulation.Views
import CreditExtraction.Simulation.WatchScan
import CreditExtraction.Simulation.World
import CreditExtraction.Sql.Alter
import CreditExtraction.Sql.Database
import CreditExtraction.Sql.Definition
import CreditExtraction.Sql.Error
import CreditExtraction.Sql.Expr
import CreditExtraction.Sql.Image
import CreditExtraction.Sql.Lexer
import CreditExtraction.Sql.Parse
import CreditExtraction.Sql.Schema
import CreditExtraction.Sql.Statement
import CreditExtraction.Sql.Value
import CreditExtraction.Store.Basic
import CreditExtraction.Store.Connect
import CreditExtraction.Store.Documents
import CreditExtraction.Store.Entities
import CreditExtraction.Store.Fields
import CreditExtraction.Store.Jobs
import CreditExtraction.Store.Migrations
import CreditExtraction.Store.Records
import CreditExtraction.Store.Remote
import CreditExtraction.Store.Schema
import CreditExtraction.Store.Tasks
import CreditExtraction.Text.Base64
import CreditExtraction.Text.CharClass
import CreditExtraction.Text.FloatText
import CreditExtraction.Text.Integer
import CreditExtraction.Text.Quoted
import CreditExtraction.Text.Regex
import CreditExtraction.Text.Search
import CreditExtraction.Text.Shortest
import CreditExtraction.Text.UnicodeData
import CreditExtraction.Text.Utf8
import CreditExtraction.Text.Uuid
import CreditExtraction.Time.Duration
import CreditExtraction.Time.Instant
import CreditExtraction.Time.Layout
import CreditExtraction.Validation
import CreditExtraction.Visualize.FieldMap
import CreditExtraction.Yaml.Document
import CreditExtraction.Yaml.Parser
import CreditExtraction.Yaml.Scanner
import CreditExtraction.Proofs.Store.Statements
import CreditExtraction.Proofs.Store.Outcome
import CreditExtraction.Proofs.Store.Reading
import CreditExtraction.Proofs.Store.Moves
import CreditExtraction.Proofs.Store.Tables
import CreditExtraction.Proofs.Store.Operations
import CreditExtraction.Proofs.Store.Queue
import CreditExtraction.Proofs.Store.Runs
import CreditExtraction.Proofs.Store.Delivery
import CreditExtraction.Proofs.Store.StageMachine
import CreditExtraction.Proofs.Store.ActiveJob
import CreditExtraction.Proofs.Text.UuidText
import CreditExtraction.Proofs.Numbers.FloatOrder
import CreditExtraction.Proofs.Field.Ranking
import CreditExtraction.Proofs.Field.Selection
import CreditExtraction.Proofs.Artifact.CacheTransparency
import CreditExtraction.Proofs.Schema.LabelMapping
import CreditExtraction.Proofs.Field.Building
import CreditExtraction.Proofs.Ocr.Normalization
import CreditExtraction.Proofs.Ocr.AnalysisLines
import CreditExtraction.Proofs.Numbers.Rounding
import CreditExtraction.Proofs.Numbers.FloatBits
import CreditExtraction.Proofs.Numbers.NumberText
import CreditExtraction.Proofs.Numbers.DecimalReading
import CreditExtraction.Proofs.Text.Erasing
import CreditExtraction.Proofs.Field.NumberMarks
import CreditExtraction.Proofs.Field.NumberCoercion
import CreditExtraction.Proofs.Files.Paths
import CreditExtraction.Proofs.Files.Frames
import CreditExtraction.Proofs.Artifact.KeyFiles
import CreditExtraction.Proofs.Artifact.DigestConsistency
import CreditExtraction.Proofs.Time.Calendar
import CreditExtraction.Proofs.Time.StoredText
import CreditExtraction.Proofs.Ocr.WordLines
import CreditExtraction.Proofs.Llm.UserPrompt
import CreditExtraction.Proofs.Sql.Updates
import CreditExtraction.Proofs.Store.Bookkeeping
import CreditExtraction.Proofs.Pipeline.Bench
import CreditExtraction.Proofs.Pipeline.Retries
