import StudioLookup.Files.Store
import StudioLookup.Main
import StudioLookup.Session
import StudioLookup.Proofs.Pattern.Placement
import StudioLookup.Proofs.Text.Lines
import StudioLookup.Proofs.Text.Occurrences
import StudioLookup.Proofs.Text.Pieces
import StudioLookup.Proofs.Text.Replacement
import StudioLookup.Proofs.Text.Bytes
import StudioLookup.Proofs.Text.Markers
import StudioLookup.Proofs.Text.MarkedLines
import StudioLookup.Proofs.Version.Words
import StudioLookup.Proofs.Version.Grammar
import StudioLookup.Proofs.Version.Collisions
import StudioLookup.Proofs.Archive.Link
import StudioLookup.Proofs.Archive.Blocks
import StudioLookup.Proofs.Archive.ReleaseList
import StudioLookup.Proofs.Properties
import StudioLookup.Proofs.Files.Store
import StudioLookup.Proofs.Files.Tree
import StudioLookup.Proofs.Url.References
import StudioLookup.Proofs.Web.Redirects
import StudioLookup.Proofs.Web.Exchanges
import StudioLookup.Proofs.Update.Course
import StudioLookup.Proofs.CommandLine.Endings
import StudioLookup.Proofs.CommandLine.Spellings
import StudioLookup.Proofs.Session.LastWrite
import StudioLookup.Proofs.Update.Stages
import StudioLookup.Proofs.Update.FailureKinds
import StudioLookup.Proofs.Update.Independence
import StudioLookup.Proofs.Archive.OtherPlatforms
import StudioLookup.Proofs.Archive.LongerNumbers
import StudioLookup.Proofs.Archive.Platforms
import StudioLookup.Proofs.Archive.Redirected
import StudioLookup.Proofs.Archive.Findings
import StudioLookup.Proofs.Archive.Scan
import StudioLookup.Proofs.Archive.CleanLinks
import StudioLookup.Proofs.Archive.Surroundings
import StudioLookup.Proofs.Archive.FirstFrame
import StudioLookup.Proofs.Archive.EscapedSource
import StudioLookup.Proofs.Location.ShortestPath
import StudioLookup.Proofs.Location.Walk
import StudioLookup.Proofs.Location.Resolution
import StudioLookup.Proofs.Update.OutputPath
