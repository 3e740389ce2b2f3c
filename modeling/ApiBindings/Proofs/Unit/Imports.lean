import ApiBindings.Proofs.Layout.Code
import ApiBindings.Proofs.Text.Literal
import ApiBindings.Proofs.Unit.Spelled
import ApiBindings.Unit.Printer
set_option autoImplicit false

namespace ApiBindings

def Package.grouped (packages : List Package) : List Package :=
  packages.filter isStandard ++ packages.filter (!·.isStandard)

def Begun (text : String) : Prop :=
  ∃ doc c rest, text.toList = (renderDoc "" doc).toList ++ c :: rest ∧ (c = 't' ∨ c = 'f')

end ApiBindings
