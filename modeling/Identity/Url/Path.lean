/-
Identity/Url/Path.lean

Paths: segments, each after a slash.

A segment of one dot stands for the place itself and a segment of two dots
for the place above; both are gone once a path has been walked along.  The
name of a drive (a letter and a colon or a bar) is never left upwards.
-/
import Identity.Url.Percent

namespace Identity.Url

/-- A path. -/
abbrev Path := List (List Char)

namespace Path

/-! ### Segments -/

/-- The ways to write a dot. -/
def dots : List (List Char) := [['.'], ['%', '2', 'e']]

/-- The segment stands for the place itself. -/
def isHere (segment : List Char) : Bool := dots.contains (segment.map Char.toLower)

/-- The segment stands for the place above. -/
def isUp (segment : List Char) : Bool :=
  (dots.flatMap fun a => dots.map (a ++ ·)).contains (segment.map Char.toLower)

/-- The text is the name of a drive, or such a name and more after a backslash. -/
def isDrive : List Char → Bool
  | letter :: mark :: rest =>
    letter.isAlpha && (mark = ':' || mark = '|') && (rest.isEmpty || rest.head? = some '\\')
  | _ => false

/-- The place above a place; places are given from their ends. -/
def above : Path → Path
  | [] => []
  | segment :: place => if isDrive segment then segment :: place else place

/-- Goes along some segments from a place, which is given from its end. -/
def walk (place : Path) : Path → Path
  | [] => place.reverse
  | segment :: rest =>
    if isUp segment || isHere segment then
      let place := if isUp segment then above place else place
      if rest.isEmpty then ([] :: place).reverse else walk place rest
    else walk (segment :: place) rest

/-! ### Reading and writing -/

/-- A character that a segment can hold. -/
def holds (c : Char) : Bool :=
  Percent.isVisible c && !" \"#<>?\x60\x7b\x7d".toList.contains c

/-- The path with the given segments, between which a slash stands. -/
def ofText (isSlash : Char → Bool) (text : List Char) : Path :=
  let segments := (text.map fun c => if isSlash c then '/' else c).splitOn '/'
  walk [] (segments.map (Percent.encode holds))

/-- The path as it stands in an address. -/
def text (path : Path) : List Char := path.flatMap ('/' :: ·)

end Path

end Identity.Url
