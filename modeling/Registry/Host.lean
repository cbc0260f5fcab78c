import Registry.Environment
import Registry.Files

/-!
# Hosts

What a program finds where it runs: the variables of its environment and the files of its working
directory.
-/

namespace Registry

/-- Variables and files. -/
structure Host where
  environment : Environment
  files : Files

end Registry
