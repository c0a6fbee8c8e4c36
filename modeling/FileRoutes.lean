import FileRoutes.Main
import FileRoutes.Proofs.Layout.Soundness
import FileRoutes.Proofs.Layout.Completeness
import FileRoutes.Proofs.Layout.Urls
import FileRoutes.Proofs.Layout.PathShape
import FileRoutes.Proofs.Segment.Parse
import FileRoutes.Proofs.Segment.Print
import FileRoutes.Proofs.Normalize.Stable
import FileRoutes.Proofs.Normalize.Duplicates
import FileRoutes.Proofs.Forest.Lookup
import FileRoutes.Proofs.Layout.FlatNames
import FileRoutes.Proofs.Segment.Unambiguous
import FileRoutes.Proofs.Layout.Names
import FileRoutes.Proofs.Layout.Lookup
import FileRoutes.Proofs.Handler
import FileRoutes.Proofs.Layout.Parameters
import FileRoutes.Proofs.Layout.PageUrls
import FileRoutes.Proofs.Layout.HandlerUrls
import FileRoutes.Proofs.InputOrder
import FileRoutes.Proofs.Layout.Positions
import FileRoutes.Proofs.Layout.Outcome
import FileRoutes.Proofs.Layout.Remount
import FileRoutes.Proofs.Forest.Prune
import FileRoutes.Proofs.Layout.Removal
import FileRoutes.Proofs.Layout.Extension
import FileRoutes.Proofs.Layout.Faults
import FileRoutes.Proofs.Handler.Collisions
import FileRoutes.Proofs.Handler.Kinds
import FileRoutes.Proofs.Segment.Continuation
import FileRoutes.Proofs.Url.Decoding
import FileRoutes.Proofs.FullPath
import FileRoutes.Proofs.Layout.Log
import FileRoutes.Proofs.Command.Output
import FileRoutes.Proofs.Json.RoundTrip
import FileRoutes.Proofs.Forest.Preorder
import FileRoutes.Proofs.Path.Extension
import FileRoutes.Proofs.Segment.Fragment
import FileRoutes.Proofs.FileList
import FileRoutes.Proofs.Json.Printed
import FileRoutes.Proofs.Session
