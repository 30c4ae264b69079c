import Gridwise.Expr.Token
import Gridwise.Failure
import Gridwise.Mode.Catalogue
import Gridwise.Proofs.BuildErrors
import Gridwise.Proofs.HiddenFaults
import Gridwise.Proofs.LeastDifference
import Gridwise.Proofs.Naturality
import Gridwise.Proofs.SingleCrash
import Gridwise.Proofs.Spelling.ErrorPosition
import Gridwise.Proofs.Spelling.Zeros
import Gridwise.Proofs.Substitution
import Gridwise.Proofs.Trapping
import Gridwise.Proofs.UnknownNames
import Gridwise.Proofs.ZeroDivisors
import Gridwise.Suite
import Gridwise.Text.Numeral
import Gridwise.Proofs.CommonOperators
import Gridwise.Proofs.LastRegistration
import Gridwise.Proofs.OperandOrder
import Gridwise.Proofs.ShortRows
import Gridwise.Proofs.Fractions
import Gridwise.Proofs.Nesting
import Gridwise.Proofs.Traversal
import Gridwise.Proofs.Growth
import Gridwise.Proofs.Spans
import Gridwise.Proofs.Agreement
import Gridwise.Proofs.Mapping
import Gridwise.Proofs.Geometry
