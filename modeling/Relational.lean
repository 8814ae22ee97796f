import Relational.CommandLine.Run
import Relational.Conversion
import Relational.Description.Read
import Relational.FileSystem.Tree
import Relational.Main
import Relational.Plan.Basic
import Relational.Report
import Relational.Schema.Edit
import Relational.Schema.Stored
import Relational.Sql.Generate
import Relational.Proofs.Plan.Groups
import Relational.Proofs.Plan.Agenda
import Relational.Proofs.Plan.Declaration
import Relational.Proofs.Plan.Step
import Relational.Proofs.Text.FreeName
import Relational.Proofs.Text.Claim
import Relational.Proofs.Plan.JoinTable
import Relational.Proofs.Plan.Demand
import Relational.Proofs.Plan.Creation
import Relational.Proofs.Plan.Execution
import Relational.Proofs.Plan.Keys
import Relational.Proofs.Plan.Synthesis
import Relational.Proofs.Plan.References
import Relational.Proofs.Plan.Deferral
import Relational.Proofs.Plan.Emission
import Relational.Proofs.Sql.Token
import Relational.Proofs.Sql.Reader
import Relational.Proofs.Sql.Spelling
import Relational.Proofs.Sql.ScriptText
import Relational.Proofs.Sql.Generation
import Relational.Proofs.Description.Json
import Relational.Proofs.Xml.Attribute
import Relational.Proofs.Xml.Content
import Relational.Proofs.Description.Tag
import Relational.Proofs.Description.Xml
import Relational.Proofs.Description.CrossFormat
import Relational.Proofs.Description.Walk
import Relational.Proofs.Text.Trim
import Relational.Proofs.Schema.Naming
import Relational.Proofs.Schema.RepeatedNames
import Relational.Proofs.Schema.WellFormed
import Relational.Proofs.Description.Parsed
import Relational.Proofs.Json.Layout
import Relational.Proofs.Sql.Unmarked
import Relational.Proofs.Schema.Storage
import Relational.Proofs.Schema.Change
import Relational.Proofs.Schema.Editing
import Relational.Proofs.Schema.EditRun
import Relational.Proofs.Schema.ThroughMarks
import Relational.Proofs.Schema.Undo
import Relational.Proofs.Sql.ConstraintNames
import Relational.Proofs.Sql.NameSupply
import Relational.Proofs.Sql.OracleNames
import Relational.Proofs.Plan.Resolution
import Relational.Proofs.Plan.Through
import Relational.Proofs.Plan.Correspondence
import Relational.Proofs.Plan.TableNames
import Relational.Proofs.Plan.Renaming
import Relational.Proofs.Plan.Addition
import Relational.Proofs.Plan.Insertion
import Relational.Proofs.Sql.Addition
import Relational.Proofs.Sql.Failure
import Relational.Proofs.Sql.Acceptance
import Relational.Proofs.Xml.Root
import Relational.Proofs.Description.Truncation
import Relational.Proofs.Sql.Identifier
import Relational.Proofs.Text.Fields
import Relational.Proofs.Sql.TypeText
import Relational.Proofs.Sql.NativeType
import Relational.Proofs.Description.Outcome
import Relational.Proofs.Description.AttributeOrder
import Relational.Proofs.FileSystem.Work
import Relational.Proofs.FileSystem.Tree
import Relational.Proofs.FileSystem.Delivery
import Relational.Proofs.CommandLine.Agreement
