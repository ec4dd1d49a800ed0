import Steward.Main
import Steward.Rehearsal.Scratch
import Steward.Rehearsal.Redaction
import Steward.Proofs.Checked
import Steward.Proofs.Overwrites
import Steward.Proofs.Upserts
import Steward.Proofs.Interleavings
import Steward.Proofs.Finality
import Steward.Proofs.Revisions
import Steward.Proofs.Listening
import Steward.Proofs.Atomicity
import Steward.Proofs.Rejections
import Steward.Proofs.Links
import Steward.Proofs.Recreations
import Steward.Proofs.Forgeries
import Steward.Proofs.Delivery
import Steward.Proofs.Mirrors
import Steward.Proofs.Addresses
import Steward.Proofs.Lookups
import Steward.Proofs.StoredKeys
import Steward.Proofs.Updates
import Steward.Proofs.Abreast
import Steward.Proofs.Commuting
import Steward.Proofs.Slugs
import Steward.Proofs.StoredSlugs
import Steward.Proofs.SlugStages
import Steward.Proofs.Resolutions
import Steward.Proofs.Courses
import Steward.Proofs.Derivations
import Steward.Proofs.Races
import Steward.Proofs.Removals
import Steward.Proofs.Documents
import Steward.Proofs.Records
import Steward.Proofs.SchemaVersions
import Steward.Proofs.Numbers
import Steward.Proofs.Layers
import Steward.Proofs.Aftermaths
