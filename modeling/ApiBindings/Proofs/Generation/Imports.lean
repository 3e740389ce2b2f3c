import ApiBindings.Proofs.Generation.Layout
import ApiBindings.Proofs.Operation.Functions
import ApiBindings.Proofs.Unit.Imports
import ApiBindings.Proofs.Unit.Used
set_option autoImplicit false

namespace ApiBindings

open Qualifiers (Named)

end ApiBindings
