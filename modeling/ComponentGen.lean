import ComponentGen.Main
import ComponentGen.Source.Assembly
import ComponentGen.Source.Writing
import ComponentGen.Proofs.Document.WrittenRules
import ComponentGen.Proofs.Extraction.Dispatch
import ComponentGen.Proofs.Extraction.EarlierDocument
import ComponentGen.Proofs.Extraction.Failures
import ComponentGen.Proofs.Extraction.Regeneration
import ComponentGen.Proofs.Extraction.Validity
import ComponentGen.Proofs.Extraction.Warnings
import ComponentGen.Proofs.Extraction.ClassOrder
import ComponentGen.Proofs.Files.Store
import ComponentGen.Proofs.Program.Effects
import ComponentGen.Proofs.Data.Shown
import ComponentGen.Proofs.Document.Fields
import ComponentGen.Proofs.Json.Texts
import ComponentGen.Proofs.Json.Values
import ComponentGen.Proofs.Document.DataTexts
import ComponentGen.Proofs.Yaml.Lines
import ComponentGen.Proofs.Yaml.PlainScalars
import ComponentGen.Proofs.Yaml.QuotedScalars
import ComponentGen.Proofs.Yaml.LiteralScalars
import ComponentGen.Proofs.Yaml.Leaves
import ComponentGen.Proofs.Yaml.Collections
import ComponentGen.Proofs.Yaml.Documents
import ComponentGen.Proofs.Program.PriorDocuments
import ComponentGen.Proofs.Extraction.ForeignMetadata
import ComponentGen.Proofs.Extraction.SilentMetadata
import ComponentGen.Proofs.Naming.Sentence
import ComponentGen.Proofs.Source.Reread
import ComponentGen.Proofs.Extraction.Hints
import ComponentGen.Proofs.Extraction.Properties
import ComponentGen.Proofs.Document.Offences
import ComponentGen.Proofs.Extraction.Comments
import ComponentGen.Proofs.Extraction.Versions
import ComponentGen.Proofs.Program.Categories
import ComponentGen.Proofs.Number.DoubleTexts
import ComponentGen.Proofs.Extraction.Messages
