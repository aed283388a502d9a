import LiterateSite.Main
import LiterateSite.Proofs.Site.Apart
import LiterateSite.Proofs.Site.History
import LiterateSite.Proofs.Highlight.Readback
import LiterateSite.Proofs.Highlight.Lossless
import LiterateSite.Proofs.Files.Way
import LiterateSite.Proofs.Site.Rows
import LiterateSite.Proofs.Files.Grow
import LiterateSite.Proofs.Site.Lockstep
import LiterateSite.Proofs.Site.Places
import LiterateSite.Proofs.Site.Coherent
import LiterateSite.Proofs.Site.Serve
import LiterateSite.Proofs.Site.Twins
import LiterateSite.Proofs.Site.TwinBuilds
import LiterateSite.Proofs.Site.Incremental
import LiterateSite.Proofs.Source.Blocks
import LiterateSite.Proofs.Site.Answer
import LiterateSite.Proofs.Files.Names
import LiterateSite.Proofs.Files.Links
import LiterateSite.Proofs.Site.Manifest
import LiterateSite.Proofs.Site.Pages
import LiterateSite.Proofs.Site.OnDisk
import LiterateSite.Proofs.Site.Interrupted
import LiterateSite.Proofs.Site.Inputs
import LiterateSite.Proofs.Site.Resume
import LiterateSite.Proofs.Site.Rebuild
import LiterateSite.Proofs.Highlight.Merge
import LiterateSite.Proofs.Highlight.Run
import LiterateSite.Proofs.Highlight.Transcript
import LiterateSite.Proofs.Site.Refused
import LiterateSite.Proofs.Site.Navigation
import LiterateSite.Proofs.Highlight.Words
import LiterateSite.Proofs.Highlight.Comments
import LiterateSite.Proofs.Highlight.Selected
import LiterateSite.Proofs.Source.Kinds
import LiterateSite.Proofs.Source.Endings
import LiterateSite.Proofs.Source.NormalForm
import LiterateSite.Proofs.Highlight.Lookup
import LiterateSite.Proofs.Site.Failure
import LiterateSite.Proofs.Site.Links
import LiterateSite.Proofs.Site.Listing
import LiterateSite.Proofs.Highlight.States
import LiterateSite.Proofs.Highlight.Written
import LiterateSite.Proofs.Template.Tags
import LiterateSite.Proofs.Site.Overlay
import LiterateSite.Proofs.Files.Extends
import LiterateSite.Proofs.CommandLine.Pieces
import LiterateSite.Proofs.CommandLine.Init
