import StormPiper.Run.Machine
import StormPiper.Run.Recency
import StormPiper.Run.Mutation
import StormPiper.Run.Transaction
import StormPiper.Run.Canvas
import StormPiper.Graph.Paths
import StormPiper.Graph.DiGraph
import StormPiper.Graph.Drainage
import StormPiper.Python.Basic
import StormPiper.Python.Text
import StormPiper.Python.Uuid
import StormPiper.Sql.Null
import StormPiper.Sql.Query
import StormPiper.Csv.Reader
import StormPiper.Frame.Basic
import StormPiper.Frame.Reshape
import StormPiper.Frame.Paged
import StormPiper.Arithmetic.Compounding
import StormPiper.Arithmetic.Extended
import StormPiper.Arithmetic.Binary
import StormPiper.Python.Numbers
import StormPiper.Ranking.Comparison
import StormPiper.Dependencies.Dirty
import StormPiper.Dependencies.Changelog
import StormPiper.Dependencies.Tables
import StormPiper.Dependencies.Simplified
import StormPiper.Dependencies.Total
import StormPiper.Database.Commits
import StormPiper.Database.Views
import StormPiper.Database.SubbasinInfo
import StormPiper.Database.Sessions
import StormPiper.Database.Linearized
import StormPiper.Tasks.Refresh
import StormPiper.Tasks.Reads
import StormPiper.Tasks.Interleaving
import StormPiper.Watershed.EdgeList
import StormPiper.Watershed.Drains
import StormPiper.Watershed.Delineated
import StormPiper.SourceControl.PercentReduction
import StormPiper.SourceControl.Compound
import StormPiper.SourceControl.Lookup
import StormPiper.SourceControl.Stages
import StormPiper.SourceControl.Organics
import StormPiper.SourceControl.Downstream
import StormPiper.SourceControl.StructuralSolve
import StormPiper.SourceControl.Balance
import StormPiper.SourceControl.Requests
import StormPiper.Facilities.Features
import StormPiper.Facilities.DefaultAttrs
import StormPiper.Loading.Prepared
import StormPiper.Loading.Summary
import StormPiper.Cost.PresentValue
import StormPiper.Cost.DirectSum
import StormPiper.Cost.Record
import StormPiper.Cost.History
import StormPiper.Cost.RefreshAll
import StormPiper.Cost.Replacement
import StormPiper.Cost.Safety
import StormPiper.Cost.Floats
import StormPiper.Cost.Totals
import StormPiper.Cost.Restated
import StormPiper.Scenario.Data
import StormPiper.Scenario.Validator
import StormPiper.Scenario.Precision
import StormPiper.Scenario.Solve
import StormPiper.Scenario.History
import StormPiper.Scenario.WriteBack
import StormPiper.Scenario.Settled
import StormPiper.Scenario.CostEffectiveness
import StormPiper.Scenario.Facilities
import StormPiper.Scenario.Graph
import StormPiper.Facilities.Attributes
import StormPiper.Geometry.Regions
import StormPiper.Watershed.Rodeo
import StormPiper.Watershed.Layers
import StormPiper.Promethee.Flow
import StormPiper.Promethee.Textbook
import StormPiper.Promethee.Conservation
import StormPiper.Promethee.Ranking
import StormPiper.Promethee.Presentation
import StormPiper.Worker.Lock
import StormPiper.Worker.Expiry
import StormPiper.Worker.Workflow
import StormPiper.Worker.Refreshed
import StormPiper.Users.Models
import StormPiper.Users.Checks
import StormPiper.Users.Routes
import StormPiper.Users.EditsUp
import StormPiper.Users.RoleChanges
import StormPiper.Users.Superusers
import StormPiper.Users.Tokens
import StormPiper.Frontend.Export
