import Lexis.Character
import Lexis.Character.Visible
import Lexis.CommandLine
import Lexis.Diagnostic
import Lexis.Directory
import Lexis.Error
import Lexis.Event
import Lexis.Kind
import Lexis.Lexer
import Lexis.Lexer.Piece
import Lexis.Lexer.Trivia
import Lexis.Location
import Lexis.Log
import Lexis.Logger
import Lexis.Main
import Lexis.Numeral
import Lexis.Proofs.Lexeme
import Lexis.Proofs.Numeral
import Lexis.Reader
import Lexis.Session
import Lexis.SymbolTable
import Lexis.Text.Align
import Lexis.Text.Line
import Lexis.Text.Quoted
import Lexis.Token
import Lexis.Vocabulary
import Lexis.Proofs.Table
import Lexis.Proofs.Line
import Lexis.Proofs.Longest
import Lexis.Proofs.Caret
import Lexis.Proofs.Session
import Lexis.Proofs.Sharing
import Lexis.Proofs.Spans
import Lexis.Proofs.CarriageReturn
import Lexis.Proofs.LineBreak
import Lexis.Proofs.Listing
import Lexis.Machine
import Lexis.Scene
import Lexis.Proofs.Machine
import Lexis.Proofs.Registry
import Lexis.Proofs.Scene
import Lexis.Heap
import Lexis.Proofs.Turn
import Lexis.Proofs.Heap
import Lexis.Proofs.Interning
import Lexis.Proofs.FailFast
import Lexis.Proofs.Simulation
import Lexis.Proofs.Append
import Lexis.Proofs.Filler
import Lexis.Proofs.RoundTrip
import Lexis.Proofs.Lookahead
import Lexis.Proofs.Resume
import Lexis.Proofs.CommandLine
import Lexis.Proofs.Log
import Lexis.Proofs.Registering
import Lexis.Proofs.Classify
import Lexis.Proofs.Kind
import Lexis.Proofs.Literal
import Lexis.Proofs.Search
import Lexis.Proofs.Additions
import Lexis.Tape
import Lexis.Proofs.Tape
import Lexis.Proofs.Quoted
import Lexis.Proofs.Row
import Lexis.Proofs.Message
import Lexis.Proofs.Loop
import Lexis.Proofs.Progress
