import ScriptBundle.Main
import ScriptBundle.Proofs.Walk.Coherence
import ScriptBundle.Proofs.Walk.Inclusion
import ScriptBundle.Proofs.Walk.LoadOrder
import ScriptBundle.Proofs.Walk.Frames
import ScriptBundle.Proofs.FileTree.Beside
import ScriptBundle.Proofs.Walk.RequireGraph
import ScriptBundle.Proofs.FileTree.Rewrite
import ScriptBundle.Proofs.Walk.Reachability
import ScriptBundle.Proofs.Walk.Rounds
import ScriptBundle.Proofs.Walk.Contribution
import ScriptBundle.Proofs.Walk.Flattening
import ScriptBundle.Proofs.Walk.Verbatim
import ScriptBundle.Proofs.Walk.RequireTree
import ScriptBundle.Proofs.Walk.Dependence
import ScriptBundle.Proofs.Walk.Thinning
import ScriptBundle.Proofs.Walk.OutputLines
import ScriptBundle.Proofs.Walk.Insertion
import ScriptBundle.Proofs.Walk.Searching
import ScriptBundle.Proofs.Search.Sessions
import ScriptBundle.Proofs.Search.Scan
import ScriptBundle.Proofs.Search.Files
import ScriptBundle.Proofs.Search.Listing
import ScriptBundle.Proofs.Comment.Preserved
import ScriptBundle.Proofs.Command.Building
import ScriptBundle.Proofs.Json.Tokens
import ScriptBundle.Proofs.Json.Values
import ScriptBundle.Proofs.Json.Layout
import ScriptBundle.Proofs.Settings.Texts
import ScriptBundle.Proofs.Report.Items
import ScriptBundle.Proofs.Report.Reading
import ScriptBundle.Proofs.Path.Direct
import ScriptBundle.Proofs.Path.Shown
import ScriptBundle.Proofs.Walk.Diagnosis
import ScriptBundle.Proofs.Report.Requirers
import ScriptBundle.Proofs.FileTree.Elsewhere
import ScriptBundle.Proofs.Command.Elsewhere
import ScriptBundle.Proofs.Command.Usability
import ScriptBundle.Proofs.Walk.Provenance
import ScriptBundle.Proofs.Path.Placeholders
import ScriptBundle.Proofs.Walk.Manifest
