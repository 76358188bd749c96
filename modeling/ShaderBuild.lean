import ShaderBuild.Artifact.Format
import ShaderBuild.Artifact.Render
import ShaderBuild.Artifact.Symbol
import ShaderBuild.Artifact.Write
import ShaderBuild.Backend.Available
import ShaderBuild.Backend.Backend
import ShaderBuild.Backend.Naga
import ShaderBuild.Backend.Shaderc
import ShaderBuild.Backend.SpirvAssembler
import ShaderBuild.Backend.Tool
import ShaderBuild.Build.Compiler
import ShaderBuild.Build.Dispatch
import ShaderBuild.Build.Runner
import ShaderBuild.Calendar
import ShaderBuild.CommandLine.Arguments
import ShaderBuild.CommandLine.Command
import ShaderBuild.CommandLine.Flag
import ShaderBuild.CommandLine.Run
import ShaderBuild.CommandLine.Word
import ShaderBuild.Config.BuildRoot
import ShaderBuild.Config.Config
import ShaderBuild.Config.Constraint
import ShaderBuild.Config.Language
import ShaderBuild.Config.Plan
import ShaderBuild.Config.Target
import ShaderBuild.Decimal.Integer
import ShaderBuild.Decimal.Lenient
import ShaderBuild.Decimal.Limit
import ShaderBuild.Decimal.Literal
import ShaderBuild.Decimal.Notation
import ShaderBuild.Decimal.Shortest
import ShaderBuild.Directive.Directive
import ShaderBuild.Directive.Lexer
import ShaderBuild.Directive.Parser
import ShaderBuild.Directive.SyntaxError
import ShaderBuild.Directive.Token
import ShaderBuild.Fault
import ShaderBuild.Files.SystemFault
import ShaderBuild.Files.Tree
import ShaderBuild.Include.Depfile
import ShaderBuild.Include.Include
import ShaderBuild.Include.Resolver
import ShaderBuild.Json.Mistake
import ShaderBuild.Json.Reader
import ShaderBuild.Json.Scalar
import ShaderBuild.Log.Entry
import ShaderBuild.Log.Markup
import ShaderBuild.Main
import ShaderBuild.Manifest.Cyclic
import ShaderBuild.Manifest.Finding
import ShaderBuild.Manifest.KeyPath
import ShaderBuild.Manifest.Load
import ShaderBuild.Manifest.LoadFault
import ShaderBuild.Manifest.Manifest
import ShaderBuild.Manifest.Payload
import ShaderBuild.Manifest.Placeholder
import ShaderBuild.Manifest.Problem
import ShaderBuild.Manifest.Schema
import ShaderBuild.Manifest.Variables
import ShaderBuild.Path
import ShaderBuild.Proofs.Artifact.Docstring
import ShaderBuild.Proofs.Artifact.HeaderNames
import ShaderBuild.Proofs.Artifact.HeaderReader
import ShaderBuild.Proofs.Artifact.HeaderValues
import ShaderBuild.Proofs.Artifact.Identifiers
import ShaderBuild.Proofs.Artifact.Lines
import ShaderBuild.Proofs.Artifact.PythonModule
import ShaderBuild.Proofs.Artifact.PythonReader
import ShaderBuild.Proofs.Artifact.Reporting
import ShaderBuild.Proofs.Artifact.Symbols
import ShaderBuild.Proofs.Artifact.Writing
import ShaderBuild.Proofs.Backend.Arguments
import ShaderBuild.Proofs.Backend.Compilation
import ShaderBuild.Proofs.Backend.Confinement
import ShaderBuild.Proofs.Backend.Listing
import ShaderBuild.Proofs.Backend.MissingInclude
import ShaderBuild.Proofs.Backend.Stops
import ShaderBuild.Proofs.Backend.ToolRuns
import ShaderBuild.Proofs.Build.AllRefused
import ShaderBuild.Proofs.Build.CheckedFirst
import ShaderBuild.Proofs.Build.Dependencies
import ShaderBuild.Proofs.Build.DirectiveFaults
import ShaderBuild.Proofs.Build.Endings
import ShaderBuild.Proofs.Build.FirstSuccess
import ShaderBuild.Proofs.Build.Foreseen
import ShaderBuild.Proofs.Build.ManifestRun
import ShaderBuild.Proofs.Build.Rebuilding
import ShaderBuild.Proofs.Build.ReceivedConfigs
import ShaderBuild.Proofs.Build.Recompiling
import ShaderBuild.Proofs.Build.Recording
import ShaderBuild.Proofs.Build.SettledLanguage
import ShaderBuild.Proofs.Build.Steps
import ShaderBuild.Proofs.Build.Tidiness
import ShaderBuild.Proofs.Build.Writes
import ShaderBuild.Proofs.CommandLine.Endings
import ShaderBuild.Proofs.Config.Suffixes
import ShaderBuild.Proofs.Directive.Acceptance
import ShaderBuild.Proofs.Directive.Due
import ShaderBuild.Proofs.Directive.Expressible
import ShaderBuild.Proofs.Directive.FirstMistake
import ShaderBuild.Proofs.Directive.Grammar
import ShaderBuild.Proofs.Directive.Items
import ShaderBuild.Proofs.Directive.Lexing
import ShaderBuild.Proofs.Directive.Lossless
import ShaderBuild.Proofs.Directive.Printing
import ShaderBuild.Proofs.Directive.Reprinting
import ShaderBuild.Proofs.Directive.Separation
import ShaderBuild.Proofs.Directive.Settings
import ShaderBuild.Proofs.Directive.Spelling
import ShaderBuild.Proofs.Directive.TokenIndex
import ShaderBuild.Proofs.Files.Confined
import ShaderBuild.Proofs.Files.Paths
import ShaderBuild.Proofs.Files.Places
import ShaderBuild.Proofs.Files.SamePlaces
import ShaderBuild.Proofs.Files.Scratch
import ShaderBuild.Proofs.Files.Touching
import ShaderBuild.Proofs.Include.CompilerRules
import ShaderBuild.Proofs.Include.Cutting
import ShaderBuild.Proofs.Include.Lines
import ShaderBuild.Proofs.Include.Reading
import ShaderBuild.Proofs.Include.RenderedRules
import ShaderBuild.Proofs.Include.Resolution
import ShaderBuild.Proofs.Include.RuleReader
import ShaderBuild.Proofs.Manifest.Caching
import ShaderBuild.Proofs.Manifest.Demand
import ShaderBuild.Proofs.Manifest.Escapes
import ShaderBuild.Proofs.Manifest.Fresh
import ShaderBuild.Proofs.Manifest.Levels
import ShaderBuild.Proofs.Manifest.Literal
import ShaderBuild.Proofs.Manifest.Placeholders
import ShaderBuild.Proofs.Manifest.Reports
import ShaderBuild.Proofs.Manifest.Resolvable
import ShaderBuild.Proofs.Manifest.Simulation
import ShaderBuild.Proofs.Manifest.SplicedItems
import ShaderBuild.Proofs.Manifest.SplicedLists
import ShaderBuild.Proofs.Manifest.Splicing
import ShaderBuild.Proofs.Manifest.Validated
import ShaderBuild.Proofs.Manifest.WithoutVariables
import ShaderBuild.Proofs.Outcome
import ShaderBuild.Proofs.Spirv.Codec
import ShaderBuild.Proofs.Text.Hexadecimal
import ShaderBuild.Proofs.Text.Literal
import ShaderBuild.Proofs.Text.Lowercase
import ShaderBuild.Proofs.Text.Names
import ShaderBuild.Proofs.Text.Parts
import ShaderBuild.Proofs.Text.Replacing
import ShaderBuild.Session
import ShaderBuild.Spirv.Module
import ShaderBuild.Text.Base64
import ShaderBuild.Text.Blank
import ShaderBuild.Text.Cased
import ShaderBuild.Text.Digit
import ShaderBuild.Text.Excerpt
import ShaderBuild.Text.Hexadecimal
import ShaderBuild.Text.Lowercase
import ShaderBuild.Text.Printable
import ShaderBuild.Text.Quoted
import ShaderBuild.Text.Utf8
import ShaderBuild.Value
import ShaderBuild.Yaml.Cursor
import ShaderBuild.Yaml.Document
import ShaderBuild.Yaml.Fault
import ShaderBuild.Yaml.Merge
import ShaderBuild.Yaml.Moment
import ShaderBuild.Yaml.Node
import ShaderBuild.Yaml.Reader
import ShaderBuild.Yaml.Resolution
import ShaderBuild.Yaml.Scalar
import ShaderBuild.Yaml.ScalarValue
import ShaderBuild.Yaml.SetOrder
import ShaderBuild.Yaml.Tag
import ShaderBuild.Yaml.Token
