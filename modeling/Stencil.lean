import Stencil.Call
import Stencil.Construction
import Stencil.Program.FormatString
import Stencil.Program.KeyReader
import Stencil.Program.Statement
import Stencil.Settings
import Stencil.Value.Creation
import Stencil.Proofs.Rendering
import Stencil.Proofs.Compiling
import Stencil.Proofs.Agreement
import Stencil.Proofs.Escaping
import Stencil.Proofs.ReturnLine
import Stencil.Proofs.Counting
import Stencil.Proofs.Chaining
import Stencil.Proofs.Gates
import Stencil.Proofs.Lists
import Stencil.Proofs.Flow
import Stencil.Proofs.Asking
import Stencil.Proofs.Respecting
import Stencil.Proofs.Framing
import Stencil.Proofs.Flattening
import Stencil.Proofs.Refusing
import Stencil.Proofs.Deciding
import Stencil.Proofs.Numerals
import Stencil.Proofs.Quoting
import Stencil.Proofs.KeySource
import Stencil.Proofs.Recording
import Stencil.Proofs.Ordering
import Stencil.Proofs.SourceLines
import Stencil.Proofs.Scoping
import Stencil.Proofs.Positions
import Stencil.Proofs.Finding
import Stencil.Proofs.Missing
import Stencil.Proofs.Normalizing
import Stencil.Proofs.Keeping
import Stencil.Proofs.Freezing
import Stencil.Proofs.Steadiness
import Stencil.Proofs.Repeating
import Stencil.Proofs.Shapes
import Stencil.Proofs.Revealing
import Stencil.Proofs.Selecting
import Stencil.Proofs.Preparing
import Stencil.Proofs.Unescaping
