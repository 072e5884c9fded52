import SongSheet.Text.Ranges
import SongSheet.Text.Blank
import SongSheet.Text.Digit
import SongSheet.Text.Word
import SongSheet.Text.Printable
import SongSheet.Text.Case.Table
import SongSheet.Text.Case
import SongSheet.Text.Hex
import SongSheet.Text.Numeral
import SongSheet.Text.Pieces
import SongSheet.Text.Quoted
import SongSheet.Json.Basic
import SongSheet.Json.Printer
import SongSheet.Diagnostic
import SongSheet.Settings
import SongSheet.Line
import SongSheet.Chord.Note
import SongSheet.Chord.Quality
import SongSheet.Chord
import SongSheet.Chord.Symbol
import SongSheet.Measure
import SongSheet.Directive
import SongSheet.Lyric
import SongSheet.Section
import SongSheet.Notice
import SongSheet.Report
import SongSheet.Metadata
import SongSheet.Song
import SongSheet.Session
import SongSheet.Document
import SongSheet.Compile
import SongSheet.Command.Arguments
import SongSheet.Command.Path
import SongSheet.Command.Folder
import SongSheet.Command
import SongSheet.Main
import SongSheet.Proofs.Text.Trim
import SongSheet.Proofs.Text.Pieces
import SongSheet.Proofs.Line
import SongSheet.Proofs.Session.Register
import SongSheet.Proofs.Session.Rules
import SongSheet.Proofs.Session.Invariant
import SongSheet.Proofs.Sheet
import SongSheet.Proofs.Session.Place
import SongSheet.Proofs.Session.Entries
import SongSheet.Proofs.Session.Settled
import SongSheet.Proofs.Sheet.Reading
import SongSheet.Proofs.Sheet.Append
import SongSheet.Proofs.Session.Batches
import SongSheet.Proofs.Line.Refusal
import SongSheet.Proofs.Session.Failures
import SongSheet.Proofs.Compile
import SongSheet.Proofs.Diagnostic
import SongSheet.Proofs.Limit
import SongSheet.Proofs.Prompter
import SongSheet.Proofs.Session.Finality
import SongSheet.Proofs.Settings
import SongSheet.Proofs.Layout
import SongSheet.Proofs.Renumber
import SongSheet.Proofs.Renumber.Session
import SongSheet.Proofs.Renumber.Text
import SongSheet.Proofs.Session.Remains
import SongSheet.Proofs.Session.Overrun
import SongSheet.Proofs.Chord.Notation
import SongSheet.Proofs.Chord.Spelling
import SongSheet.Proofs.Json.Reader
import SongSheet.Proofs.Json.RoundTrip
import SongSheet.Proofs.Command
import SongSheet.Proofs.Line.Lyric
import SongSheet.Proofs.Line.Directive
import SongSheet.Proofs.Line.Measure
import SongSheet.Proofs.Sheet.Pause
import SongSheet.Proofs.Line.Header
import SongSheet.Proofs.Line.Scan
import SongSheet.Proofs.Metadata
import SongSheet.Proofs.Sheet.Omission
import SongSheet.Proofs.Log
