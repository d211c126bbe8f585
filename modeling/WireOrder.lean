import WireOrder.Conversion
import WireOrder.Cursor
import WireOrder.Direction
import WireOrder.Endianness
import WireOrder.Event
import WireOrder.Exploration
import WireOrder.Fault
import WireOrder.Field
import WireOrder.Grammar
import WireOrder.Intake
import WireOrder.Layout
import WireOrder.Placement
import WireOrder.Record
import WireOrder.Session
import WireOrder.Text.CodeRanges
import WireOrder.Text.Dump
import WireOrder.Text.GraphemeExtend
import WireOrder.Text.Invisible
import WireOrder.Token
import WireOrder.Tokenizer
import WireOrder.Version
import WireOrder.Walk
import WireOrder.Proofs.FieldPlacement
import WireOrder.Proofs.FieldRecoding
import WireOrder.Proofs.LeadingItems
import WireOrder.Proofs.WalkInvariant
import WireOrder.Proofs.WalkSteps
import WireOrder.Proofs.IndexedWalk
import WireOrder.Proofs.ConversionOutcome
import WireOrder.Proofs.FormatGrammar
import WireOrder.Proofs.FormatDissection
import WireOrder.Proofs.EntryScanning
import WireOrder.Proofs.FormatReading
import WireOrder.Proofs.LayoutParsing
import WireOrder.Proofs.LayoutGrammar
import WireOrder.Proofs.CanonicalText
import WireOrder.Proofs.LayoutConversion
import WireOrder.Proofs.ConversionReversal
import WireOrder.Proofs.FormatConcatenation
import WireOrder.Proofs.ConversionConcatenation
import WireOrder.Proofs.EventNarration
import WireOrder.Proofs.ByteReading
import WireOrder.Proofs.TokenizerRun
import WireOrder.Proofs.TokenizerResumption
import WireOrder.Proofs.LayoutLength
import WireOrder.Proofs.ByteMovement
import WireOrder.Proofs.BufferGrowth
import WireOrder.Proofs.SettledFaults
import WireOrder.Proofs.LayoutDistinction
import WireOrder.Proofs.RecordSequences
import WireOrder.Proofs.DisjointConversions
