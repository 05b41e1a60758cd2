import CharacterTables.Text.Quoted
import CharacterTables.Text.Lines
import CharacterTables.Text.Utf8
import CharacterTables.Text.Lowercase
import CharacterTables.Corpus.CharacterRecord
import CharacterTables.Corpus.DerivedProperty
import CharacterTables.Corpus.CaseFold
import CharacterTables.Corpus.SpecialCase
import CharacterTables.Corpus.Cursors
import CharacterTables.Collection.OrderedMap
import CharacterTables.TwoStage.Search
import CharacterTables.Character.CharacterInfo
import CharacterTables.BasicPlane
import CharacterTables.SupplementaryPlanes
import CharacterTables.WhiteSpace
import CharacterTables.Folding
import CharacterTables.SpecialCasing.Check
import CharacterTables.Generation
import CharacterTables.Session.FileSystem
import CharacterTables.Main
import CharacterTables.Proofs.Collection.Numbering
import CharacterTables.Proofs.TwoStage.Blocks
import CharacterTables.Proofs.TwoStage.Contents
import CharacterTables.Proofs.Outcome
import CharacterTables.Proofs.Session.Outcome
import CharacterTables.Proofs.TwoStage.Cost
import CharacterTables.Proofs.TwoStage.History
import CharacterTables.Proofs.TwoStage.Lookup
import CharacterTables.Proofs.TwoStage.Recovery
import CharacterTables.Proofs.Collection.OrderedMap
import CharacterTables.Proofs.Collection.Placement
import CharacterTables.Proofs.Registry
import CharacterTables.Proofs.BasicPlane
import CharacterTables.Proofs.CharacterFlags
import CharacterTables.Proofs.InfoTable
import CharacterTables.Proofs.WrappedCodes
import CharacterTables.Proofs.Folding
import CharacterTables.Proofs.SupplementaryPlanes
import CharacterTables.Proofs.Generation
import CharacterTables.Proofs.Collection.Renumbering
import CharacterTables.Proofs.Collection.Indexing
import CharacterTables.Proofs.RegistryOrder
import CharacterTables.Proofs.Collection.Ascending
import CharacterTables.Proofs.Collection.LastWins
import CharacterTables.Proofs.FoldClasses
import CharacterTables.Proofs.FoldOrder
import CharacterTables.Proofs.FoldTable
import CharacterTables.Proofs.Corpus.LineByLine
import CharacterTables.Proofs.Corpus.SectionTotals
import CharacterTables.Proofs.SpecialCasing.Buckets
import CharacterTables.Proofs.SpecialCasing.Reordering
import CharacterTables.Proofs.SpecialCasing.Gate
import CharacterTables.Proofs.SpecialCasing.Sorting
import CharacterTables.Proofs.SpecialCasing.Shape
import CharacterTables.Proofs.SpecialCasing.Departures
import CharacterTables.Proofs.Session.Contract
import CharacterTables.Proofs.Session.Loading
import CharacterTables.Proofs.Session.Saving
import CharacterTables.Proofs.Session.Run
import CharacterTables.Proofs.Text.Newlines
import CharacterTables.Proofs.Heading
import CharacterTables.Proofs.Session.Repetition
import CharacterTables.Proofs.Text.OneLine
import CharacterTables.Proofs.Wording
import CharacterTables.Proofs.Faults.Compiling
import CharacterTables.Proofs.CommandLine.Reporting
import CharacterTables.Proofs.Text.Joining
import CharacterTables.Proofs.Text.Pieces
import CharacterTables.Proofs.Text.Numerals
import CharacterTables.Proofs.Corpus.LineReader
import CharacterTables.Proofs.Corpus.Rows
import CharacterTables.Proofs.Corpus.WrittenCharacters
import CharacterTables.Proofs.Corpus.WrittenProperties
import CharacterTables.Proofs.Corpus.WrittenCases
import CharacterTables.Proofs.Corpus.Concatenation
import CharacterTables.Proofs.Spaces
import CharacterTables.Proofs.TwoStage.Growth
import CharacterTables.Proofs.SupplementaryContents
import CharacterTables.Proofs.MutualFolds
import CharacterTables.Proofs.Text.LineBreaks
import CharacterTables.Proofs.Corpus.BreakStyle
import CharacterTables.Proofs.Corpus.CharacterLine
import CharacterTables.Proofs.Corpus.RangePairs
import CharacterTables.Proofs.TwoStage.Checking
import CharacterTables.Proofs.RegistryContents
import CharacterTables.Proofs.Corpus.Requests
import CharacterTables.Proofs.Corpus.Suspension
import CharacterTables.Proofs.Corpus.LineNumbers
import CharacterTables.Proofs.Corpus.SilentLines
