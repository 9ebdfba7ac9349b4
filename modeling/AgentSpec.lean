import AgentSpec.Main
import AgentSpec.Files.Store
import AgentSpec.Proofs.Loop
import AgentSpec.Proofs.Graph.Edges
import AgentSpec.Proofs.Graph.ClosedPath
import AgentSpec.Proofs.Graph.Search
import AgentSpec.Proofs.Graph.Turns
import AgentSpec.Proofs.Graph.Cycles
import AgentSpec.Proofs.Graph.DepthFirst
import AgentSpec.Proofs.Graph.Sweep
import AgentSpec.Proofs.Graph.Bounds
import AgentSpec.Proofs.Graph.NamedCycles
import AgentSpec.Proofs.Graph.Sizes
import AgentSpec.Proofs.Rule.Cycles
import AgentSpec.Proofs.Json.Sorted
import AgentSpec.Proofs.Yaml.Tree
import AgentSpec.Proofs.Yaml.Reading
import AgentSpec.Proofs.Document.Codec
import AgentSpec.Proofs.Document.RoundTrip
import AgentSpec.Proofs.Draft.Finish
import AgentSpec.Proofs.Rule.Emission
import AgentSpec.Proofs.Rule.Severity
import AgentSpec.Proofs.Text.Cut
import AgentSpec.Proofs.Version
import AgentSpec.Proofs.Rule.Naming
import AgentSpec.Proofs.Rule.Collections
import AgentSpec.Proofs.Rule.References
import AgentSpec.Proofs.Graph.Usage
import AgentSpec.Proofs.Graph.Effort
import AgentSpec.Proofs.Rule.Reachability
import AgentSpec.Proofs.Template
import AgentSpec.Proofs.Rule.Prompts
import AgentSpec.Proofs.Text.Words
import AgentSpec.Proofs.Rule.Boundary
import AgentSpec.Proofs.Rule.Schemas
import AgentSpec.Proofs.Compiler
import AgentSpec.Proofs.Rule.SchemaParts
import AgentSpec.Proofs.Rule.Pass
import AgentSpec.Proofs.Place
import AgentSpec.Proofs.Rule.Locations
import AgentSpec.Proofs.Text.Spelling
import AgentSpec.Proofs.Strictness
import AgentSpec.Proofs.Document.NormalForm
import AgentSpec.Proofs.Rule.Findings
import AgentSpec.Proofs.Rule.Repetition
import AgentSpec.Proofs.Except
import AgentSpec.Proofs.Files
import AgentSpec.Proofs.Session
import AgentSpec.Proofs.Text.Lines
import AgentSpec.Proofs.Json.Compact
import AgentSpec.Proofs.ReportText
import AgentSpec.Proofs.Finding
import AgentSpec.Proofs.Rule.Shown
import AgentSpec.Proofs.Report
import AgentSpec.Proofs.Rule.Accounts
import AgentSpec.Proofs.Rule.Violations
import AgentSpec.Proofs.Rule.SchemaFindings
import AgentSpec.Proofs.Rule.Parts
import AgentSpec.Proofs.Rule.Culprits
import AgentSpec.Proofs.Document.Requirements
import AgentSpec.Proofs.Version.Grammar
import AgentSpec.Proofs.Workflow
import AgentSpec.Proofs.Rule.Sites
import AgentSpec.Proofs.Rule.Recounts
import AgentSpec.Proofs.Rule.Uniqueness
import AgentSpec.Proofs.Rule.Usage
import AgentSpec.Proofs.Rule.Placeholders
import AgentSpec.Proofs.Draft.Runs
