import Retrograde.Files.Build
import Retrograde.History
import Retrograde.Json.Decode
import Retrograde.Main
import Retrograde.Proofs.Splitting
import Retrograde.Proofs.Entry
import Retrograde.Proofs.FirstOccurrence
import Retrograde.Proofs.WordList
import Retrograde.Proofs.Index
import Retrograde.Proofs.Text.Utf8
import Retrograde.Proofs.Ending
import Retrograde.Proofs.Text.ByteOrder
import Retrograde.Proofs.Dictionary
import Retrograde.Proofs.EarlySort
import Retrograde.Proofs.Json
import Retrograde.Proofs.Labels
import Retrograde.Proofs.Meaning
import Retrograde.Proofs.Dependence
import Retrograde.Proofs.Omission
import Retrograde.Proofs.Delivery
import Retrograde.Proofs.LineFeeds
import Retrograde.Proofs.Reading
import Retrograde.Proofs.Concatenation
import Retrograde.Proofs.RoundTrip
import Retrograde.Proofs.Consistency
import Retrograde.Proofs.Files.Tree
import Retrograde.Proofs.CommandLine.Output
import Retrograde.Proofs.CommandLine.Spelling
import Retrograde.Proofs.Causes
import Retrograde.Proofs.Run
import Retrograde.Proofs.Aftermath
import Retrograde.Proofs.Destination
import Retrograde.Proofs.Layout
import Retrograde.Proofs.Sorting
import Retrograde.Proofs.Resorting
import Retrograde.Proofs.Files.Contents
import Retrograde.Proofs.Affixes
import Retrograde.Proofs.Logging
import Retrograde.Proofs.Counts
import Retrograde.Proofs.TextReport
import Retrograde.Proofs.Arrangement
import Retrograde.Proofs.Sources
import Retrograde.Proofs.Trace
import Retrograde.Proofs.Reconciliation
