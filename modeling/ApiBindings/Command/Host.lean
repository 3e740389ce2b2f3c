import ApiBindings.Files.Access
import ApiBindings.Formatter
set_option autoImplicit false

namespace ApiBindings.Command

class Host (m : Type → Type) where
  readText : String → m (Except AccessError String)
  saveText : String → String → m (Except AccessError Unit)
  print : String → m Unit
  printError : String → m Unit
  installed : m (Option Tool)

-- No file of a world is a link, and none can be written but not read. A real machine
-- has both, and what it refuses for want of a permission is `AccessError.other`.
structure World where
  files : Files := {}
  tool : Option Tool := none
  output : String := ""
  errors : String := ""

instance : Host (StateM World) where
  readText path := return (← get).files.read path
  saveText path text := fun world =>
    let (files, result) := world.files.save path text
    (result, { world with files })
  print text := modify fun world => { world with output := world.output ++ text }
  printError text := modify fun world => { world with errors := world.errors ++ text }
  installed := return (← get).tool

end ApiBindings.Command
