import LayeredFlags.Arguments.Reading
import LayeredFlags.Resolution.Configuration
import LayeredFlags.Resolution.Environment

/-!
# Parsing

The three tiers in order: the command line, the environment, the configuration file.  The first
failure ends the parse with what was assigned until then; a parse that succeeds marks the set as
parsed and keeps the leftover arguments.
-/

namespace LayeredFlags.Chain

/-- Fills unset flags from the tiers below the command line. -/
def fill (o : ParseOptions) (c : Chain) : Attempt Chain :=
  let x := KeyIndex.ofChain o.rules c
  (c.fillFromEnv o x).andThen (fillFromConfig o x)

/-- The chain whose own set is parsed, with its leftover arguments. -/
def finish (leftovers : List String) (c : Chain) : Attempt Chain :=
  ⟨{ c with own := { c.own with parsed := true, leftovers } }, none⟩

/-- Parses arguments and fills unset flags from the tiers below. -/
def parse (o : ParseOptions) (args : List String) (c : Chain) : Attempt Chain :=
  if c.own.parsed then ⟨c, some (.alreadyParsed c.own.name)⟩
  else
    match c.readArgs args with
    | ⟨c, .error e⟩ => ⟨c, some e⟩
    | ⟨c, .ok leftovers⟩ => (c.fill o).andThen (finish leftovers)

end LayeredFlags.Chain
