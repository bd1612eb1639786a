import Polyglot.Proofs.Agreement
import Polyglot.Proofs.Batch
import Polyglot.Proofs.BodyLimit
import Polyglot.Proofs.ByteScans
import Polyglot.Proofs.Catalog.FileNames
import Polyglot.Proofs.Catalog.Independence
import Polyglot.Proofs.Catalog.Rebuilding
import Polyglot.Proofs.Catalog.Resolution
import Polyglot.Proofs.Classification.Exactness
import Polyglot.Proofs.Classification.Growth
import Polyglot.Proofs.Classification.Reordering
import Polyglot.Proofs.Detection
import Polyglot.Proofs.Guard
import Polyglot.Proofs.NamedFiles
import Polyglot.Proofs.Settings
import Polyglot.Proofs.Shutdown
import Polyglot.Proofs.Signal.Elements
import Polyglot.Proofs.Signal.ForeignNames
import Polyglot.Proofs.Signal.LetterCase
import Polyglot.Proofs.Signal.LineBreaks
import Polyglot.Proofs.Signal.Markup
import Polyglot.Proofs.Signal.Objects
import Polyglot.Proofs.Signal.Outline
import Polyglot.Proofs.Signal.Silence
import Polyglot.Proofs.Signal.Statements
import Polyglot.Proofs.Signal.Words
import Polyglot.Unicode.Encoding
