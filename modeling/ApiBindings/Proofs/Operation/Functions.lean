import ApiBindings.Proofs.Operation.Finder
import ApiBindings.Proofs.Operation.Path
set_option autoImplicit false

namespace ApiBindings

end ApiBindings
