/-!
# Routes

A route is a path as a text spells it.  The names on the way stand between slashes, a single dot
is no step, and two dots are a step back.  A route that ends in a slash or in a dot leads to a
directory or to nothing; both can spell a directory that is there, but only one that ends in a
slash can spell one that is to be made.  The operating system takes no text that holds the null
character or is too long.
-/

namespace StorageEngine.Disk

/-- How a route ends after its last step. -/
inductive Ending where
  | plain
  | slash
  | dot
deriving DecidableEq, Inhabited

/-- The steps of a path, each to a name or back, and its ending. -/
@[ext]
structure Route where
  steps : List String
  ending : Ending
deriving DecidableEq, Inhabited

namespace Route

/-- The number of bytes that the text of a path may have. -/
def longestText : Nat := 4079

/-- Whether a text ends in a slash. -/
def endsInSlash (text : String) : Bool :=
  text.toList.getLast? = some '/'

/-- The route that a text spells, if the operating system takes the text. -/
def ofText? (text : String) : Option Route :=
  if text.utf8ByteSize ≤ longestText ∧ '\x00' ∉ text.toList then
    let names := (text.splitOn "/").filter (· ≠ "")
    some {
      steps := names.filter (· ≠ ".")
      ending :=
        if names.getLast? = some "." then .dot
        else if endsInSlash text then .slash
        else .plain }
  else
    none

/-- The bytes that stand before the name of a file in the text of its path, when the text of the
path to its directory is given. -/
def bytesBeforeName (directory : String) : Nat :=
  if directory = "" ∨ endsInSlash directory then
    directory.utf8ByteSize
  else
    directory.utf8ByteSize + 1

end Route

end StorageEngine.Disk
