import SiteDesk.Main
import SiteDesk.Outage
import SiteDesk.Proofs.Admission
import SiteDesk.Proofs.Promotion
import SiteDesk.Proofs.Handling
import SiteDesk.Proofs.Serving
import SiteDesk.Proofs.Effects
import SiteDesk.Proofs.FailedCommands
import SiteDesk.Proofs.AuditReplay
import SiteDesk.Proofs.CacheFidelity
import SiteDesk.Proofs.StoredLayouts
import SiteDesk.Proofs.PathIndex
import SiteDesk.Proofs.Schedules
import SiteDesk.Proofs.Courses
import SiteDesk.Proofs.AuditEntries
import SiteDesk.Proofs.Discipline
import SiteDesk.Proofs.SiteAnswers
import SiteDesk.Proofs.Linearization
import SiteDesk.Proofs.Concurrency
import SiteDesk.Proofs.Agreement
import SiteDesk.Proofs.AuditSinks
import SiteDesk.Proofs.CompactIdentity
import SiteDesk.Proofs.CacheTransparency
import SiteDesk.Proofs.ClockReadings
import SiteDesk.Proofs.BatchPruning
import SiteDesk.Proofs.ArgumentScanning
import SiteDesk.Proofs.CommandRoundTrip
import SiteDesk.Proofs.PayloadTexts
import SiteDesk.Proofs.ArgumentBoundaries
import SiteDesk.Proofs.EntryPoints
import SiteDesk.Proofs.PageAddresses
import SiteDesk.Proofs.ParseDecision
import SiteDesk.Proofs.PayloadShapes
import SiteDesk.Proofs.ParsedCommands
import SiteDesk.Proofs.ValidationOutcomes
import SiteDesk.Proofs.StrictMode
import SiteDesk.Proofs.PathLocality
import SiteDesk.Proofs.FailureStatuses
import SiteDesk.Proofs.Persistence
import SiteDesk.Proofs.Diagnostics
import SiteDesk.Proofs.PageCreation
import SiteDesk.Proofs.VerbReadings
import SiteDesk.Proofs.ArgumentPresence
import SiteDesk.Proofs.ArgumentOffsets
import SiteDesk.Proofs.CompiledNodes
import SiteDesk.Proofs.UnknownTags
import SiteDesk.Proofs.WrappedRoots
import SiteDesk.Proofs.TagReadings
import SiteDesk.Proofs.TagForms
import SiteDesk.Proofs.NodeLevels
import SiteDesk.Proofs.Conformity
import SiteDesk.Proofs.Explanations
import SiteDesk.Proofs.Relaxation
import SiteDesk.Proofs.PageTraces
import SiteDesk.Proofs.PromotionFrame
import SiteDesk.Proofs.CacheCounters
import SiteDesk.Proofs.ContactListing
import SiteDesk.Proofs.Slugs
