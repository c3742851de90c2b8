/-!
# Replacing — every occurrence of a word in a text

Occurrences are taken from the left and do not overlap.
-/

namespace UiSurface.Text

/-- Replaces the occurrences of `word`, passing over `skip` characters that belong to the last
one. -/
def replaceFrom (word substitute : List Char) : Nat → List Char → List Char
  | _, [] => []
  | skip + 1, _ :: cs => replaceFrom word substitute skip cs
  | 0, c :: cs =>
    if word.isPrefixOf (c :: cs) then substitute ++ replaceFrom word substitute (word.length - 1) cs
    else c :: replaceFrom word substitute 0 cs

/-- Replaces every occurrence of a word that is not empty. -/
def replace (word substitute cs : List Char) : List Char := replaceFrom word substitute 0 cs

end UiSurface.Text
