import Fixture.Environment.Load
import Fixture.Record.Derived
import Fixture.Record.Table
import Fixture.Proofs.Scan
import Fixture.Proofs.Substitution
import Fixture.Proofs.WholeTag
import Fixture.Proofs.Settled
import Fixture.Proofs.Division
import Fixture.Proofs.Indirection
import Fixture.Proofs.Inlining
import Fixture.Proofs.Confinement
import Fixture.Proofs.Overflow
import Fixture.Proofs.Rewriting
import Fixture.Proofs.Written
import Fixture.Proofs.Template
import Fixture.Proofs.Binding
import Fixture.Proofs.Pairs
import Fixture.Proofs.Updates
import Fixture.Proofs.HeaderTables
import Fixture.Proofs.FirstFault
import Fixture.Proofs.Maps
import Fixture.Proofs.Conversion
import Fixture.Proofs.Lowercase
import Fixture.Proofs.Dispatch
import Fixture.Proofs.Listing
import Fixture.Proofs.Readers
import Fixture.Proofs.Entries
import Fixture.Proofs.Digits
import Fixture.Proofs.WholeNumbers
import Fixture.Proofs.Literals
import Fixture.Proofs.ComplexText
import Fixture.Proofs.Rounding
import Fixture.Proofs.Spelling
import Fixture.Proofs.ComplexRoundTrip
import Fixture.Proofs.Absence
import Fixture.Proofs.Keys
import Fixture.Proofs.Layers
import Fixture.Proofs.Paths
import Fixture.Proofs.Loading
import Fixture.Proofs.Outcomes
import Fixture.Proofs.NumberText
import Fixture.Proofs.ArrayText
import Fixture.Proofs.ArrayItems
import Fixture.Proofs.Pieces
import Fixture.Proofs.Expansion
import Fixture.Proofs.Shortest
import Fixture.Proofs.Doubles
import Fixture.Proofs.Narrowing
import Fixture.Proofs.Documents
import Fixture.Proofs.Untyped
import Fixture.Proofs.Shifts
import Fixture.Proofs.Clock
import Fixture.Proofs.LetterCase
