import TelescopePointing.Angle
import TelescopePointing.CommandLine.Arguments
import TelescopePointing.CommandLine.Parser
import TelescopePointing.CommandLine.Program
import TelescopePointing.Config.Basic
import TelescopePointing.Config.Reading
import TelescopePointing.Decimal.Numeral
import TelescopePointing.Decimal.Rounding
import TelescopePointing.Decimal.Shortest
import TelescopePointing.Decimal.Text
import TelescopePointing.Disk
import TelescopePointing.Earth.Aberration
import TelescopePointing.Earth.Orbit
import TelescopePointing.Earth.Orientation
import TelescopePointing.Engine.Horizon
import TelescopePointing.Engine.Strategy
import TelescopePointing.Engine.Transform
import TelescopePointing.Error
import TelescopePointing.Fit
import TelescopePointing.LeastSquares.Solver
import TelescopePointing.LeastSquares.Symmetric
import TelescopePointing.Log
import TelescopePointing.Main
import TelescopePointing.Model.Basic
import TelescopePointing.Model.Mounts
import TelescopePointing.Model.Registry
import TelescopePointing.Observation.Batch
import TelescopePointing.Observation.Pairing
import TelescopePointing.Observation.Row
import TelescopePointing.Observation.Store
import TelescopePointing.Projection.Gaussian
import TelescopePointing.Projection.Histogram
import TelescopePointing.Proofs.Alike
import TelescopePointing.Proofs.Angle
import TelescopePointing.Proofs.CommandLine.Program
import TelescopePointing.Proofs.Config.Check
import TelescopePointing.Proofs.Decimal.Cell
import TelescopePointing.Proofs.Disk.Blank
import TelescopePointing.Proofs.Disk.Changes
import TelescopePointing.Proofs.Disk.Copy
import TelescopePointing.Proofs.Disk.Keeping
import TelescopePointing.Proofs.Disk.Path
import TelescopePointing.Proofs.Disk.Writing
import TelescopePointing.Proofs.Earth.Aberration
import TelescopePointing.Proofs.Earth.Orbit
import TelescopePointing.Proofs.Earth.Partial
import TelescopePointing.Proofs.Engine.ApparentPlace
import TelescopePointing.Proofs.Engine.Correction
import TelescopePointing.Proofs.Engine.Definedness
import TelescopePointing.Proofs.Engine.Divergence
import TelescopePointing.Proofs.Engine.HourAngle
import TelescopePointing.Proofs.Engine.RoundTrip
import TelescopePointing.Proofs.Engine.Separation
import TelescopePointing.Proofs.Fit.Convention
import TelescopePointing.Proofs.Fit.Cost
import TelescopePointing.Proofs.Fit.Indices
import TelescopePointing.Proofs.Fit.Order
import TelescopePointing.Proofs.Fit.Partial
import TelescopePointing.Proofs.LeastSquares.Affine
import TelescopePointing.Proofs.LeastSquares.BestPoint
import TelescopePointing.Proofs.LeastSquares.Budget
import TelescopePointing.Proofs.LeastSquares.CentralDifference
import TelescopePointing.Proofs.LeastSquares.Descent
import TelescopePointing.Proofs.LeastSquares.Elimination
import TelescopePointing.Proofs.LeastSquares.History
import TelescopePointing.Proofs.LeastSquares.Mirror
import TelescopePointing.Proofs.LeastSquares.Order
import TelescopePointing.Proofs.LeastSquares.Partial
import TelescopePointing.Proofs.LeastSquares.Reflection
import TelescopePointing.Proofs.LeastSquares.Shape
import TelescopePointing.Proofs.LeastSquares.Status
import TelescopePointing.Proofs.LeastSquares.Undefined
import TelescopePointing.Proofs.Model.Affine
import TelescopePointing.Proofs.Model.AxisTurn
import TelescopePointing.Proofs.Model.Contribution
import TelescopePointing.Proofs.Model.Descent
import TelescopePointing.Proofs.Model.Registry
import TelescopePointing.Proofs.Model.Tilt
import TelescopePointing.Proofs.Observation.Batch
import TelescopePointing.Proofs.Observation.Cells
import TelescopePointing.Proofs.Observation.Decoding
import TelescopePointing.Proofs.Observation.Deletion
import TelescopePointing.Proofs.Observation.Order
import TelescopePointing.Proofs.Observation.Pairing
import TelescopePointing.Proofs.Observation.Pass
import TelescopePointing.Proofs.Observation.Removal
import TelescopePointing.Proofs.Observation.RoundTrip
import TelescopePointing.Proofs.Observation.Row
import TelescopePointing.Proofs.Observation.Store
import TelescopePointing.Proofs.Projection.Histogram
import TelescopePointing.Proofs.Projection.Mirror
import TelescopePointing.Proofs.Projection.Order
import TelescopePointing.Proofs.Refraction
import TelescopePointing.Proofs.Report.Artifact
import TelescopePointing.Proofs.Report.Contents
import TelescopePointing.Proofs.Report.Outcome
import TelescopePointing.Proofs.Report.Publication
import TelescopePointing.Proofs.Report.Tables
import TelescopePointing.Proofs.Residual
import TelescopePointing.Proofs.Run.Agreement
import TelescopePointing.Proofs.Run.Convention
import TelescopePointing.Proofs.Run.Cost
import TelescopePointing.Proofs.Run.Course
import TelescopePointing.Proofs.Run.Deletion
import TelescopePointing.Proofs.Run.DeletionCount
import TelescopePointing.Proofs.Run.Delivery
import TelescopePointing.Proofs.Run.Effects
import TelescopePointing.Proofs.Run.Equatorial
import TelescopePointing.Proofs.Run.Failure
import TelescopePointing.Proofs.Run.Flexure
import TelescopePointing.Proofs.Run.Order
import TelescopePointing.Proofs.Run.Publications
import TelescopePointing.Proofs.Run.Subsets
import TelescopePointing.Proofs.Run.Success
import TelescopePointing.Proofs.Run.Tally
import TelescopePointing.Proofs.Run.Trace
import TelescopePointing.Proofs.Scalar.Order
import TelescopePointing.Proofs.Scalar.Partial
import TelescopePointing.Proofs.Scalar.Real
import TelescopePointing.Proofs.Scalar.Rounding
import TelescopePointing.Proofs.Scalar.Square
import TelescopePointing.Proofs.Selection
import TelescopePointing.Proofs.Sky.Convention
import TelescopePointing.Proofs.Sky.Direction
import TelescopePointing.Proofs.Sky.GreatCircle
import TelescopePointing.Proofs.Sky.Partial
import TelescopePointing.Proofs.Sky.Placement
import TelescopePointing.Proofs.Sky.Rotation
import TelescopePointing.Proofs.Sky.RoundTrip
import TelescopePointing.Proofs.Sky.Separation
import TelescopePointing.Proofs.Table.RoundTrip
import TelescopePointing.Proofs.Time.Resolved
import TelescopePointing.Proofs.Time.Sidereal
import TelescopePointing.Refraction
import TelescopePointing.Report.Basic
import TelescopePointing.Report.Tables
import TelescopePointing.Residual
import TelescopePointing.Run.Deletion
import TelescopePointing.Run.Fitting
import TelescopePointing.Run.Session
import TelescopePointing.Scalar
import TelescopePointing.Scalar.Binary64
import TelescopePointing.Site
import TelescopePointing.Sky.Direction
import TelescopePointing.Sky.Position
import TelescopePointing.Table.Reader
import TelescopePointing.Table.Writer
import TelescopePointing.Text.Character
import TelescopePointing.Text.Quoted
import TelescopePointing.Time.Calendar
import TelescopePointing.Time.DateText
import TelescopePointing.Time.Instant
import TelescopePointing.Time.Resolved
import TelescopePointing.Time.Sidereal
import TelescopePointing.Yaml.Cursor
import TelescopePointing.Yaml.Document
import TelescopePointing.Yaml.Leaf
import TelescopePointing.Yaml.Node
import TelescopePointing.Yaml.Reading
import TelescopePointing.Yaml.Tag
import TelescopePointing.Yaml.Token
