import JsonBinding.Character.Case
import JsonBinding.Character.Compatibility
import JsonBinding.Graph.Member
import JsonBinding.Graph.Description
import JsonBinding.Graph.Inline
import JsonBinding.Recorded
import JsonBinding.TypeHint
import JsonBinding.Converter
import JsonBinding.Progress
import JsonBinding.Name.Reserved
import JsonBinding.Name.Style
import JsonBinding.Draft.Module
import JsonBinding.Graph.Writer
import JsonBinding.Graph.Reader
import JsonBinding.Proofs.Inline.Acyclic
import JsonBinding.Proofs.Inline.Outcome
import JsonBinding.Proofs.Inline.HintText
import JsonBinding.Proofs.Inline.Renderable
import JsonBinding.Proofs.Inline.NullAcceptance
import JsonBinding.Proofs.Inline.Record
import JsonBinding.Proofs.Inline.Spelling
import JsonBinding.Proofs.Draft.Step
import JsonBinding.Proofs.Draft.Failure
import JsonBinding.Proofs.Draft.Run
import JsonBinding.Proofs.Draft.Ledger
import JsonBinding.Proofs.Draft.Generate
import JsonBinding.Proofs.Draft.Growth
import JsonBinding.Proofs.Source.Word
import JsonBinding.Proofs.Draft.Support
import JsonBinding.Proofs.Import.Grouping
import JsonBinding.Proofs.Import.Reading
import JsonBinding.Proofs.Draft.Importing
import JsonBinding.Proofs.Draft.Quoting
import JsonBinding.Proofs.Inline.Reversal
import JsonBinding.Proofs.Graph.MemberOrder
import JsonBinding.Proofs.Draft.Reordering
import JsonBinding.Proofs.Name.CaseImage
import JsonBinding.Proofs.Text.Trim
import JsonBinding.Proofs.Name.Legalizing
import JsonBinding.Proofs.Name.Run
import JsonBinding.Proofs.Name.Usable
import JsonBinding.Proofs.Name.NormalForm
import JsonBinding.Proofs.Name.Fragment
import JsonBinding.Proofs.Name.Underscore
import JsonBinding.Proofs.Json.Token
import JsonBinding.Proofs.Json.Record
import JsonBinding.Proofs.Graph.RoundTrip
import JsonBinding.Proofs.Inline.FirstFault
import JsonBinding.Proofs.Inline.Optional
import JsonBinding.Proofs.Draft.Parallel
import JsonBinding.Proofs.Draft.ClassLines
import JsonBinding.Proofs.Draft.Configuration
import JsonBinding.Proofs.Text.Lines
import JsonBinding.Proofs.Source.Comment
import JsonBinding.Proofs.Source.Ending
import JsonBinding.Proofs.Draft.Describing
import JsonBinding.Proofs.Name.Splitting
import JsonBinding.Proofs.Source.Literal
import JsonBinding.Proofs.Source.Docstring
import JsonBinding.Proofs.Text.Carriage
import JsonBinding.Proofs.Source.Carriage
import JsonBinding.Proofs.Inline.Formed
import JsonBinding.Proofs.Inline.Carriage
import JsonBinding.Proofs.Draft.Carriage
import JsonBinding.Proofs.Graph.Dangling
import JsonBinding.Proofs.Graph.UnionShape
import JsonBinding.Proofs.Inline.UnionShape
import JsonBinding.Proofs.Name.Plain
import JsonBinding.Proofs.Inline.Legible
import JsonBinding.Proofs.Draft.Scope
import JsonBinding.Proofs.Draft.Alignment
import JsonBinding.Proofs.Draft.Assembly
import JsonBinding.Proofs.Draft.Capture
import JsonBinding.Proofs.Inline.Depth
