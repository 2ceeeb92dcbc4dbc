import RCompletion.Main
import RCompletion.Proofs.Buffer.Field
import RCompletion.Proofs.Engine.Cache
import RCompletion.Proofs.Engine.FieldAccess
import RCompletion.Proofs.Store.NothingLoaded
import RCompletion.Proofs.Candidate.Start
import RCompletion.Proofs.Engine.Blocks
import RCompletion.Proofs.Engine.Reached
import RCompletion.Proofs.Engine.Arguments
import RCompletion.Proofs.Listing.Snippet
import RCompletion.Proofs.Engine.Offered
import RCompletion.Proofs.Engine.Snippet
import RCompletion.Proofs.Buffer.Extension
import RCompletion.Proofs.Buffer.Chain
import RCompletion.Proofs.Buffer.RowEnd
import RCompletion.Proofs.Engine.Unchanged
import RCompletion.Proofs.Engine.Typing
import RCompletion.Proofs.Engine.BeforeCursor
import RCompletion.Proofs.Engine.Unread
import RCompletion.Proofs.Engine.HandedOut
import RCompletion.Proofs.Json.Strings
import RCompletion.Proofs.Json.Taken
import RCompletion.Proofs.Json.Records
import RCompletion.Proofs.Json.Forms
import RCompletion.Proofs.Json.Kept
import RCompletion.Proofs.Candidate.Rewritten
import RCompletion.Proofs.Listing.Written
import RCompletion.Proofs.Store.Loaded
import RCompletion.Proofs.Buffer.Search
import RCompletion.Proofs.Buffer.RowPatterns
import RCompletion.Proofs.Engine.Asked
import RCompletion.Proofs.Listing.Places
import RCompletion.Proofs.Buffer.Call
import RCompletion.Proofs.Buffer.Insertion
import RCompletion.Proofs.Buffer.MissingRow
import RCompletion.Proofs.Candidate.LongerStart
import RCompletion.Proofs.Store.Installed
import RCompletion.Proofs.CommandLine.Options
import RCompletion.Proofs.Configuration.Chosen
import RCompletion.Proofs.Session.Closed
import RCompletion.Proofs.Buffer.Marked
