import CollectiveChoice.Configuration.Validation
import CollectiveChoice.Calendar.Pattern
import CollectiveChoice.Engine.Run
import CollectiveChoice.Engine.Session
import CollectiveChoice.Proofs.Engine.Transition
import CollectiveChoice.Proofs.Engine.Marks
import CollectiveChoice.Proofs.Engine.Publication
import CollectiveChoice.Proofs.Engine.Freshness
import CollectiveChoice.Proofs.Engine.Attribution
import CollectiveChoice.Proofs.Engine.Replay
import CollectiveChoice.Proofs.Engine.Resumption
import CollectiveChoice.Proofs.Engine.Agreement
import CollectiveChoice.Proofs.Engine.Fitting
import CollectiveChoice.Proofs.Engine.Persistence
import CollectiveChoice.Proofs.Term.Splitting
import CollectiveChoice.Proofs.Term.RoundTrip
import CollectiveChoice.Proofs.Term.Ground
import CollectiveChoice.Proofs.Digest.Naming
import CollectiveChoice.Proofs.Model.Content
import CollectiveChoice.Proofs.Json.Decoding
import CollectiveChoice.Proofs.Json.Plain
import CollectiveChoice.Proofs.Number.Rounding
import CollectiveChoice.Proofs.Calendar.RoundTrip
import CollectiveChoice.Proofs.Page.Sources
import CollectiveChoice.Proofs.Template.Grammar
import CollectiveChoice.Proofs.Configuration.Consistency
import CollectiveChoice.Proofs.Configuration.Entries
import CollectiveChoice.Proofs.Configuration.Plugins
import CollectiveChoice.Proofs.Configuration.RoundTrip
import CollectiveChoice.Proofs.Engine.Coherence
import CollectiveChoice.Proofs.Engine.Provenance
import CollectiveChoice.Proofs.Engine.Rearrangement
import CollectiveChoice.Proofs.Engine.Abandonment
import CollectiveChoice.Proofs.Term.Renaming
import CollectiveChoice.Proofs.Encoding.Shape
import CollectiveChoice.Proofs.Random.Sample
import CollectiveChoice.Proofs.Solving.Selection
import CollectiveChoice.Proofs.Solving.Limit
import CollectiveChoice.Proofs.Engine.Choosing
import CollectiveChoice.Proofs.Engine.Overwriting
import CollectiveChoice.Proofs.Page.Markup
import CollectiveChoice.Proofs.Encoding.Odometer
import CollectiveChoice.Proofs.Encoding.Filling
import CollectiveChoice.Proofs.Page.Filling
import CollectiveChoice.Proofs.Model.Canonical
import CollectiveChoice.Proofs.Model.Common
import CollectiveChoice.Proofs.Engine.LongerNames
import CollectiveChoice.Proofs.Term.Users
import CollectiveChoice.Proofs.Encoding.Rounds
import CollectiveChoice.Proofs.Encoding.Universe
import CollectiveChoice.Proofs.Page.Dominance
import CollectiveChoice.Proofs.Page.Elements
import CollectiveChoice.Proofs.Page.Flags
import CollectiveChoice.Proofs.Page.Pairing
import CollectiveChoice.Proofs.Template.Offence
import CollectiveChoice.Proofs.Page.Listing
import CollectiveChoice.Proofs.Engine.Availability
import CollectiveChoice.Proofs.Solving.Output
import CollectiveChoice.Proofs.Page.RunningTime
import CollectiveChoice.Proofs.Text.Entities
import CollectiveChoice.Proofs.Page.Counts
import CollectiveChoice.Proofs.Encoding.Expansion
import CollectiveChoice.Proofs.Page.Scores
