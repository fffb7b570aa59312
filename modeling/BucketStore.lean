import BucketStore.Main
import BucketStore.Proofs.Collapses
import BucketStore.Proofs.Decisions
import BucketStore.Proofs.Drops
import BucketStore.Proofs.Escapes
import BucketStore.Proofs.FailedRequests
import BucketStore.Proofs.FailingDisks
import BucketStore.Proofs.FilterHistories
import BucketStore.Proofs.Flushes
import BucketStore.Proofs.Increments
import BucketStore.Proofs.KeptTallies
import BucketStore.Proofs.KnownBuckets
import BucketStore.Proofs.Ledgers
import BucketStore.Proofs.NameLanguage
import BucketStore.Proofs.Ordering
import BucketStore.Proofs.Provisioning
import BucketStore.Proofs.ReadYourWrites
import BucketStore.Proofs.Reopening
import BucketStore.Proofs.Retractions
import BucketStore.Proofs.TallyGrammar
import BucketStore.Proofs.Transcripts
