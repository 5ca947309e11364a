import LayeredFlags.CommandLine.Command
import Mathlib.Tactic.SplitIfs

/-!
# Words of a command line

Which options and arguments a command takes from its words.
-/

namespace LayeredFlags.CommandLine

variable {t : OptionTable} {g : Given} {words : List String}

/-! ## Arguments -/

end LayeredFlags.CommandLine
