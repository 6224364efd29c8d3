import KalmanHeader.Proofs.C.Identifier
import KalmanHeader.Proofs.Header.Scope

/-!
# Which descriptions have a header

Composing stops at the first check that fails, and the names of a header are claimed one
after another. None of this order matters for whether there is a header: a description has
one exactly when its options can be written, its arrays fit together, its constants have no
circle, its state is made of different symbols, and all names that the header declares are
different from each other and from those that every header has. Once the names are settled
nothing can fail any more.
-/

namespace KalmanHeader

namespace HeaderSpec

end HeaderSpec

section Options

variable {options : HeaderOptions}

end Options

namespace DeclaredName

variable {options : HeaderOptions} {guard : String} {arrays parameters : List String}

end DeclaredName

namespace HeaderSpec

variable {spec : HeaderSpec} {options : HeaderOptions} {fileName : String}
  {substitution : Substitution Float} {state : List String}

section Expanded

variable (resolved : Substitution.ofConstants spec.constants = .ok substitution)

include resolved

end Expanded

end HeaderSpec

end KalmanHeader
