import FrameworkBindings.Main
import FrameworkBindings.Files.Tree
import FrameworkBindings.Proofs.Signature.Nesting
import FrameworkBindings.Proofs.Signature.Rules
import FrameworkBindings.Proofs.Signature.Spelling
import FrameworkBindings.Proofs.Signature.Matching
import FrameworkBindings.Proofs.Signature.Cuts
import FrameworkBindings.Proofs.Signature.Affixes
import FrameworkBindings.Proofs.Signature.Cores
import FrameworkBindings.Proofs.Signature.Prefixes
import FrameworkBindings.Proofs.Signature.Faults
import FrameworkBindings.Proofs.Signature.Pointers
import FrameworkBindings.Proofs.Signature.Parameters
import FrameworkBindings.Proofs.Store.Definitions
import FrameworkBindings.Proofs.Types.References
import FrameworkBindings.Proofs.Types.Erasure
import FrameworkBindings.Proofs.Types.Casts
import FrameworkBindings.Proofs.Output.Relocation
import FrameworkBindings.Proofs.Output.BestEffort
import FrameworkBindings.Proofs.Loading.Contribution
import FrameworkBindings.Proofs.Loading.Effect
import FrameworkBindings.Proofs.Loading.Entries
import FrameworkBindings.Proofs.Loading.Settling
import FrameworkBindings.Proofs.Loading.Reachable
import FrameworkBindings.Proofs.Loading.Index
import FrameworkBindings.Proofs.Loading.Renumbering
import FrameworkBindings.Proofs.Loading.Ledger
import FrameworkBindings.Proofs.Loading.Growth
import FrameworkBindings.Proofs.Loading.Refusal
import FrameworkBindings.Proofs.Output.Order
import FrameworkBindings.Proofs.Output.Filter
import FrameworkBindings.Proofs.Output.Pieces
import FrameworkBindings.Proofs.Output.Growth
import FrameworkBindings.Proofs.Text.Casing
import FrameworkBindings.Proofs.Text.Conversions
import FrameworkBindings.Proofs.Output.Declared
import FrameworkBindings.Proofs.Output.LegalNames
import FrameworkBindings.Proofs.Output.Names
import FrameworkBindings.Proofs.Output.Remarks
import FrameworkBindings.Proofs.Store.Histories
import FrameworkBindings.Proofs.Loading.Attachment
import FrameworkBindings.Proofs.Output.Literals
import FrameworkBindings.Proofs.Output.Interfaces
import FrameworkBindings.Proofs.Types.StaticTypes
import FrameworkBindings.Proofs.Output.Returns
import FrameworkBindings.Proofs.Loading.Image
import FrameworkBindings.Proofs.Loading.Dimensions
import FrameworkBindings.Proofs.Json.Words
import FrameworkBindings.Proofs.Json.Writing
import FrameworkBindings.Proofs.Json.Records
import FrameworkBindings.Proofs.Document.Forms
import FrameworkBindings.Proofs.Signature.Size
import FrameworkBindings.Proofs.Output.Stubs
import FrameworkBindings.Proofs.Output.ParameterNames
import FrameworkBindings.Proofs.Signature.Visibility
import FrameworkBindings.Proofs.Loading.Provenance
import FrameworkBindings.Proofs.Loading.Visibility
import FrameworkBindings.Proofs.Report.Collecting
import FrameworkBindings.Proofs.Report.Columns
import FrameworkBindings.Proofs.Output.Accounting
import FrameworkBindings.Proofs.Output.Reuse
import FrameworkBindings.Proofs.Output.LineFeeds
import FrameworkBindings.Proofs.Signature.Origins
import FrameworkBindings.Proofs.Output.RawTexts
import FrameworkBindings.Proofs.Loading.Sources
import FrameworkBindings.Proofs.Output.Lines
import FrameworkBindings.Proofs.Text.Marks
import FrameworkBindings.Proofs.Loading.Receivers
import FrameworkBindings.Declaration.Memo
import FrameworkBindings.Proofs.Declaration.Memo
import FrameworkBindings.Proofs.Store.Tables
