import Phrasebook.CommandLine
import Phrasebook.Main
import Phrasebook.Proofs.Dictionary.Anchoring
import Phrasebook.Proofs.Dictionary.Basic
import Phrasebook.Proofs.Dictionary.Exemption
import Phrasebook.Proofs.Dictionary.Indexing
import Phrasebook.Proofs.Dictionary.Reading
import Phrasebook.Proofs.Dictionary.Writing
import Phrasebook.Proofs.Ledger.Flushing
import Phrasebook.Proofs.Ledger.Marked
import Phrasebook.Proofs.Ledger.Mending
import Phrasebook.Proofs.Ledger.Normalisation
import Phrasebook.Proofs.Ledger.Reconciling
import Phrasebook.Proofs.Ledger.Recording
import Phrasebook.Proofs.Ledger.Session
import Phrasebook.Proofs.Ledger.Upsert
import Phrasebook.Proofs.Line.Cutting
import Phrasebook.Proofs.Line.Framing
import Phrasebook.Proofs.Line.Joining
import Phrasebook.Proofs.Live.Freshness
import Phrasebook.Proofs.Live.Polling
import Phrasebook.Proofs.Live.Renewal
import Phrasebook.Proofs.Pattern.Basic
import Phrasebook.Proofs.Pattern.Grouping
import Phrasebook.Proofs.Pattern.Laying
import Phrasebook.Proofs.Pattern.Matching
import Phrasebook.Proofs.Pattern.Prefixing
import Phrasebook.Proofs.Pattern.Reaching
import Phrasebook.Proofs.Resolution.Agreement
import Phrasebook.Proofs.Resolution.Arrangement
import Phrasebook.Proofs.Resolution.Provenance
import Phrasebook.Proofs.Resolution.Replacement
import Phrasebook.Proofs.Resolution.Searching
import Phrasebook.Proofs.Resolution.Shielding
import Phrasebook.Proofs.Resolution.Stability
import Phrasebook.Proofs.Resolution.Verdict
import Phrasebook.Proofs.Settings.Sources
import Phrasebook.Proofs.Text.Runs
import Phrasebook.Proofs.Text.Utf8
import Phrasebook.Proofs.Translator.Coherence
import Phrasebook.Proofs.Translator.Requests
import Phrasebook.Proofs.Translator.Startup
import Phrasebook.Proofs.Translator.Streaming
