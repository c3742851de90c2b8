import UiSurface.Text.Lines

/-!
# Targets — paths without segments of full stops

A segment of one full stop stays where it is, and a segment of two goes back one segment; both are
resolved as they stand, before anything in the path is decoded.
-/

namespace UiSurface.Target

/-- Takes a segment of a path: one full stop is left out, two take away the segment before. -/
def addSegment (before : List (List Char)) (segment : List Char) : List (List Char) :=
  if segment = ['.'] then before
  else if segment = ['.', '.'] then
    -- above the root there is nothing
    (if before = [] ∨ before = [[]] then before else before.dropLast)
  else before ++ [segment]

/-- A path without segments of full stops. -/
def tidy (path : List Char) : List Char :=
  Text.joinWith '/' ((Text.splitAt '/' path).foldl addSegment [])

end UiSurface.Target
