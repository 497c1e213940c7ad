import PackageDoc.Main
import PackageDoc.Proofs.Text.Utf8
import PackageDoc.Proofs.Glob.Wildcard
import PackageDoc.Proofs.Glob.Segments
import PackageDoc.Proofs.Regex.Attempt
import PackageDoc.Proofs.Regex.Segment
import PackageDoc.Proofs.Disk.Plain
import PackageDoc.Proofs.Disk.Writing
import PackageDoc.Proofs.Disk.Below
import PackageDoc.Proofs.Disk.Becoming
import PackageDoc.Proofs.Disk.Retaining
import PackageDoc.Proofs.Marker.Region
import PackageDoc.Proofs.Marker.Default
import PackageDoc.Proofs.Marker.Replace
import PackageDoc.Proofs.Walk.Basic
import PackageDoc.Proofs.Walk.Decision
import PackageDoc.Proofs.Walk.Lockstep
import PackageDoc.Proofs.Walk.Scan
import PackageDoc.Proofs.Walk.Visible
import PackageDoc.Proofs.Walk.Sites
import PackageDoc.Proofs.Walk.Rooted
import PackageDoc.Proofs.Walk.Effect
import PackageDoc.Proofs.Walk.Real
import PackageDoc.Proofs.Walk.Calls
import PackageDoc.Proofs.Walk.Log
import PackageDoc.Proofs.Walk.Cycle
import PackageDoc.Proofs.Walk.Order
import PackageDoc.Proofs.Walk.Writes
import PackageDoc.Proofs.Walk.Record
import PackageDoc.Proofs.Run.Check
import PackageDoc.Proofs.Run.Plan
import PackageDoc.Proofs.Run.Visits
import PackageDoc.Proofs.Run.Prepared
import PackageDoc.Proofs.Run.DryRun
import PackageDoc.Proofs.Run.Again
import PackageDoc.Proofs.Run.Validation
import PackageDoc.Proofs.Run.Log
import PackageDoc.Proofs.Run.Cycle
import PackageDoc.Proofs.Run.Loaded
import PackageDoc.Proofs.Run.Templates
import PackageDoc.Proofs.Run.Mirror
import PackageDoc.Proofs.Run.Packages
import PackageDoc.Proofs.Run.Previous
import PackageDoc.Proofs.Console.Preview
import PackageDoc.Proofs.Console.Listing
import PackageDoc.Proofs.Console.Initial
import PackageDoc.Proofs.Walk.Arises
import PackageDoc.Proofs.Run.Consistency
import PackageDoc.Proofs.Marker.Delimited
import PackageDoc.Proofs.Marker.Meaning
import PackageDoc.Proofs.Regex.Within
import PackageDoc.Proofs.Run.MarkerFile
import PackageDoc.Proofs.Marker.Repeat
import PackageDoc.Proofs.Marker.Written
import PackageDoc.Proofs.Declaration.Rewrite
import PackageDoc.Proofs.Regex.Nesting
import PackageDoc.Proofs.Regex.Numbering
import PackageDoc.Proofs.Regex.GroupSpans
import PackageDoc.Proofs.Marker.Survival
import PackageDoc.Proofs.Glob.Case
import PackageDoc.Proofs.Declaration.Grammar
import PackageDoc.Proofs.Disk.Key
import PackageDoc.Proofs.Template.Store
import PackageDoc.Proofs.Template.Files
