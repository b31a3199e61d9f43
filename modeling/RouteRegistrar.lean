import RouteRegistrar.Build.Run
import RouteRegistrar.Proofs.Registration.Meaning
import RouteRegistrar.Proofs.Source.Walk
import RouteRegistrar.Route.Definition
import RouteRegistrar.Route.Expansion
import RouteRegistrar.Route.Session
import RouteRegistrar.Source.Scan
import RouteRegistrar.Text.Lossy
import RouteRegistrar.Proofs.Files.Kinds
import RouteRegistrar.Proofs.Source.Dependence
import RouteRegistrar.Proofs.Files.Bound
import RouteRegistrar.Proofs.Files.Paths
import RouteRegistrar.Proofs.Source.SelfType
import RouteRegistrar.Proofs.Source.Completeness
import RouteRegistrar.Proofs.Source.ModuleRule
import RouteRegistrar.Proofs.Registration.Extraction
import RouteRegistrar.Proofs.Files.Writing
import RouteRegistrar.Proofs.Source.Unfolding
import RouteRegistrar.Proofs.Source.Inlining
import RouteRegistrar.Proofs.Grammar.Parser
import RouteRegistrar.Proofs.Grammar.Item
import RouteRegistrar.Proofs.Registration.Expansion
import RouteRegistrar.Proofs.Registration.Pass
import RouteRegistrar.Proofs.Registration.History
import RouteRegistrar.Proofs.Files.Growth
import RouteRegistrar.Proofs.Files.Reading
import RouteRegistrar.Proofs.Files.Repetition
import RouteRegistrar.Proofs.Source.Questions
import RouteRegistrar.Proofs.Build.Repetition
import RouteRegistrar.Proofs.Files.Spellings
import RouteRegistrar.Proofs.Source.Declarations
import RouteRegistrar.Proofs.Source.EntryPoint
import RouteRegistrar.Proofs.Source.Imports
import RouteRegistrar.Proofs.Source.ImportOrder
import RouteRegistrar.Proofs.Source.Parameters
import RouteRegistrar.Proofs.Settings.KeyPaths
import RouteRegistrar.Proofs.Settings.Variables
import RouteRegistrar.Proofs.Settings.Orders
import RouteRegistrar.Proofs.Source.Shadowing
import RouteRegistrar.Proofs.Source.NormalForms
import RouteRegistrar.Proofs.Source.OwnType
import RouteRegistrar.Proofs.Source.Idempotence
import RouteRegistrar.Proofs.Source.WholePaths
import RouteRegistrar.Proofs.Registration.Handles
import RouteRegistrar.Proofs.Registration.MountPaths
import RouteRegistrar.Proofs.Registration.MarkerNames
import RouteRegistrar.Proofs.Source.ImportGroups
import RouteRegistrar.Proofs.Source.PathTokens
import RouteRegistrar.Proofs.Files.Touching
import RouteRegistrar.Proofs.Source.ParameterTypes
