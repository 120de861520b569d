import RootZone.Host.Replay
import RootZone.Main
import RootZone.Proofs.Pattern.Legible
import RootZone.Proofs.Pattern.Reading
import RootZone.Proofs.Pattern.Tokens
import RootZone.Proofs.Pattern.Words
import RootZone.Proofs.Pattern.Search
import RootZone.Proofs.Trie.Language
import RootZone.Proofs.Trie.Preference
import RootZone.Proofs.Trie.Membership
import RootZone.Proofs.Trie.Appearance
import RootZone.Proofs.Trie.Recovery
import RootZone.Proofs.Trie.Sharing
import RootZone.Proofs.Trie.Styles
import RootZone.Proofs.Trie.Order
import RootZone.Proofs.Trie.Nesting
import RootZone.Proofs.Entry.Order
import RootZone.Proofs.Punycode.Alphabet
import RootZone.Proofs.Unicode.Tables
import RootZone.Proofs.Unicode.Lowercase
import RootZone.Proofs.Unicode.Composition
import RootZone.Proofs.Idna.Casing
import RootZone.Proofs.Idna.Names
import RootZone.Proofs.Label.Decode
import RootZone.Proofs.Listing.Entries
import RootZone.Proofs.Listing.Labels
import RootZone.Proofs.Listing.Outcome
import RootZone.Proofs.Listing.Variants
import RootZone.Proofs.Listing.Rereading
import RootZone.Proofs.Listing.Spellings
import RootZone.Proofs.Corpus.Exact
import RootZone.Proofs.Corpus.Variants
import RootZone.Proofs.Corpus.Recompilation
import RootZone.Proofs.Corpus.Nesting
import RootZone.Proofs.Corpus.Order
import RootZone.Proofs.Artifact.GoReading
import RootZone.Proofs.Artifact.GoSource
import RootZone.Proofs.Artifact.GoSlices
import RootZone.Proofs.Artifact.Labels
import RootZone.Proofs.Artifact.GoAscii
import RootZone.Proofs.Artifact.GoLiterals
import RootZone.Proofs.Artifact.JsonReading
import RootZone.Proofs.Artifact.JsonRecovery
import RootZone.Proofs.Corpus.Errors
import RootZone.Proofs.Files.Tree
import RootZone.Proofs.Files.Path
import RootZone.Proofs.Files.Walk
import RootZone.Proofs.Files.Rooted
import RootZone.Proofs.Files.Save
import RootZone.Proofs.Files.Frame
import RootZone.Proofs.Files.Atomic
import RootZone.Proofs.Http.Message
import RootZone.Proofs.Http.Head
import RootZone.Proofs.Http.Body
import RootZone.Proofs.Http.Download
import RootZone.Proofs.Job
import RootZone.Proofs.Artifact.Save
import RootZone.Proofs.CommandLine.Words
import RootZone.Proofs.CommandLine.Run
import RootZone.Proofs.CommandLine.Frame
