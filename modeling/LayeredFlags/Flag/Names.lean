import LayeredFlags.Text.Blank
import LayeredFlags.Text.Cut
import LayeredFlags.Text.Quoted

/-!
# Names of flags

A flag has a one-character name, a long name, or both.  This module holds which names are
admissible, how they are shown, and which name a flag answers to: a bare name of one character
reaches a short name or a long name of that one character.
-/

namespace LayeredFlags

/-- The names of a flag, without dashes. -/
structure FlagNames where
  short : Option Char := none
  long : Option String := none
  deriving DecidableEq, Repr

/-- What is wrong with the names of a flag. -/
inductive NameProblem where
  | missing
  | badShort (c : Char)
  | badLong (name : String)
  | sameTwice (c : Char)
  /-- A switch that is on by default can only be turned off by a long name. -/
  | needsLong (names : String)
  deriving DecidableEq, Repr

/-- The wording of what is wrong with names. -/
def NameProblem.message : NameProblem → String
  | .missing => "flag needs a short or long name"
  | .badShort c => "short name " ++ Text.quotedLetter c
  | .badLong name => "long name " ++ Text.quoted name
  | .sameTwice c => "short and long names are both " ++ Text.quotedLetter c
  | .needsLong names => names ++ ": boolean flag defaulting to true needs a long name"

/-- The bare name of a flag behind any number of leading dashes. -/
def bareName (name : String) : String :=
  String.ofList (Text.dropDashes name.toList)

namespace FlagNames

/-! ## Admissible names -/

/-- A character that can be a short name. -/
def shortAllowed (c : Char) : Bool :=
  !(c == '\x00' || c == '-' || c == '=' || Text.isBlank c)

/-- A text that can be a long name. -/
def longAllowed (name : String) : Bool :=
  let s := name.toList
  !(s.isEmpty || s.head? == some '-' || s.contains '=' || s.any Text.isBlank)

/-- The first thing that is wrong with the names. -/
def problem? (n : FlagNames) : Option NameProblem :=
  match n.short, n.long with
  | none, none => some .missing
  | some c, none => if shortAllowed c then none else some (.badShort c)
  | none, some l => if longAllowed l then none else some (.badLong l)
  | some c, some l =>
    if !shortAllowed c then some (.badShort c)
    else if !longAllowed l then some (.badLong l)
    else if l = String.singleton c then some (.sameTwice c)
    else none

/-! ## Rendering -/

/-- A long name as it is written on a command line. -/
def dashedLong (name : String) : String :=
  "--" ++ name

/-- A short name as it is written on a command line. -/
def dashedShort (c : Char) : String :=
  String.ofList ['-', c]

/-- The preferred name: the long one, else the short one. -/
def display (n : FlagNames) : String :=
  match n.long, n.short with
  | some l, _ => dashedLong l
  | none, some c => dashedShort c
  | none, none => "<unnamed>"

/-- All names, for listings. -/
def listing (n : FlagNames) : String :=
  match n.short, n.long with
  | some c, some l => dashedShort c ++ ", " ++ dashedLong l
  | some c, none => dashedShort c
  | none, some l => dashedLong l
  | none, none => "<unnamed>"

/-! ## Matching -/

/-- The short name is `c`. -/
def hasShort (n : FlagNames) (c : Char) : Bool :=
  n.short == some c

/-- The long name is `l`. -/
def hasLong (n : FlagNames) (l : String) : Bool :=
  n.long == some l

/-- The flag answers to the bare name: it is the short name written as a text, or the long
name. -/
def answersTo (n : FlagNames) (name : String) : Bool :=
  n.short.any (String.singleton · == name) || n.hasLong name

/-- The character of a text of one character. -/
def singleChar? (name : String) : Option Char :=
  match name.toList with
  | [c] => some c
  | _ => none

/-- The name, as written on a command line, by which an incoming flag runs into an existing one:
each of its names is compared with the long name and with the short one, where a long name counts
as a short one if it has one character. -/
def collision? (existing incoming : FlagNames) : Option String :=
  match incoming.short.filter fun c =>
      existing.hasShort c || existing.long.bind singleChar? == some c with
  | some c => some (dashedShort c)
  | none =>
    (incoming.long.filter fun l =>
      existing.hasLong l || (singleChar? l).any existing.hasShort).map dashedLong

end FlagNames

end LayeredFlags
