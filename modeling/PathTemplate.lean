import PathTemplate.Main
import PathTemplate.Proofs.Render.Concatenation
import PathTemplate.Proofs.Render.Failures
import PathTemplate.Proofs.Template.Printing
import PathTemplate.Proofs.Time.CalendarShift
import PathTemplate.Proofs.Time.CalendarEnds
import PathTemplate.Proofs.Template.Segmentation
import PathTemplate.Proofs.Placeholder.Bounds
import PathTemplate.Proofs.Render.Blame
import PathTemplate.Proofs.CommandLine.Refinement
import PathTemplate.Proofs.Head.Viability
import PathTemplate.Proofs.Head.Backtracking
import PathTemplate.Proofs.Template.Joining
import PathTemplate.Proofs.Render.References
import PathTemplate.Proofs.Report.Location
import PathTemplate.Proofs.Time.DayRoundTrip
import PathTemplate.Proofs.Time.StandardText
import PathTemplate.Proofs.Time.LocalText
import PathTemplate.Proofs.Value.Classification
import PathTemplate.Proofs.Value.IntegerPattern
import PathTemplate.Proofs.Value.FloatPattern
import PathTemplate.Proofs.Template.Extents
import PathTemplate.Proofs.Placeholder.Faults
import PathTemplate.Proofs.Template.Shorthand
import PathTemplate.Proofs.Value.Validity
import PathTemplate.Proofs.Decimal.NearestValue
import PathTemplate.Proofs.Render.Log
import PathTemplate.Proofs.Context.File
import PathTemplate.Proofs.Toml.StampText
import PathTemplate.Proofs.Template.Tiling
import PathTemplate.Proofs.Head.Tiling
