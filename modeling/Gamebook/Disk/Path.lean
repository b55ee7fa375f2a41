/-
  Paths of files.

  A path is relative, or begins at the root; two slashes in front begin at a root of their own kind,
  and more than two are as good as one. Empty components and single dots are dropped when a path is
  read. Double dots stay, since what they lead to is up to the files.
-/
import Gamebook.Text.Search

namespace Gamebook

/-- The components of a path, and how many slashes stand in front of them: none, one or two. -/
structure Path where
  slashes : Nat := 0
  components : List String := []
deriving DecidableEq, Inhabited

namespace Path

/-- The path that a text stands for. -/
def ofString (text : String) : Path :=
  let slashes := (text.toList.takeWhile (· = '/')).length
  let components := (Text.splitWhere (· = '/') text.toList).map String.ofList
  { slashes := if slashes = 0 || slashes = 2 then slashes else 1
    components := components.filter fun name => name ≠ "" && name ≠ "." }

/-- The path that leads from `base` on to `next`; one that begins at the root stands for itself. -/
def join (base next : Path) : Path :=
  if next.slashes = 0 then { base with components := base.components ++ next.components } else next

/-- The path as it is written; with nothing in it, a single dot. -/
def text (path : Path) : String :=
  if path.slashes = 0 && path.components.isEmpty then "."
  else
    String.ofList (List.replicate path.slashes '/') ++ String.intercalate "/" path.components

/-- The path holds the character NUL. -/
def hasNul (path : Path) : Bool := path.components.any fun name => name.toList.contains '\x00'

end Path
end Gamebook
