import UiSurface.Text.Lines

/-!
# Resources — what a path leads to

Every path leads to one resource or to none.  One line feed at the end of a path is overlooked where
the path ends in a fixed word.
-/

namespace UiSurface

/-- What there is to be requested. -/
inductive Resource where
  | designs
  | design (id : String)
  | preview (id : String)
  | bindings (id : String)
  | devices
  | push
  | pushDesign
  | health
deriving DecidableEq

/-- What a path comes to. -/
inductive Route where
  | found (r : Resource)
  /-- the path would lead somewhere without the slashes at its end -/
  | redirect
  | nowhere
deriving DecidableEq

namespace Resource

/-- Whether the last segment of a path is a word. -/
def isWord (word segment : String) : Bool := segment == word || segment == word ++ "\n"

/-- The resource of the collections. -/
def collection? (segment : String) : Option Resource :=
  if isWord "designs" segment then some designs
  else if isWord "devices" segment then some devices
  else none

/-- What belongs to a design. -/
def ofDesign? (id segment : String) : Option Resource :=
  if id.isEmpty then none
  else if isWord "preview" segment then some (preview id)
  else if isWord "bindings" segment then some (bindings id)
  else none

def ofDevices? (segment : String) : Option Resource :=
  if isWord "push" segment then some push
  else if isWord "push-design" segment then some pushDesign
  else none

/-- The resource of the segments of a path. -/
def ofSegments? : List String → Option Resource
  | ["", segment] => if isWord "health" segment then some health else none
  | ["", "api", segment] => collection? segment
  | ["", "api", "designs", id] => if id.isEmpty then none else some (design id)
  | ["", "api", "designs", id, segment] => ofDesign? id segment
  | ["", "api", "devices", segment] => ofDevices? segment
  | _ => none

/-- The resource of a path. -/
def ofPath? (path : List Char) : Option Resource :=
  ofSegments? ((Text.splitAt '/' path).map String.ofList)

def methods : Resource → List String
  | designs => ["GET", "POST"]
  | design _ | preview _ | bindings _ | devices | health => ["GET"]
  | push | pushDesign => ["POST"]

end Resource

/-- Where a path leads. -/
def Route.ofPath (path : List Char) : Route :=
  match Resource.ofPath? path with
  | some r => .found r
  | none =>
    if path.getLast? = some '/' ∧
        (Resource.ofPath? (path.reverse.dropWhile (· == '/')).reverse).isSome then .redirect
    else .nowhere

end UiSurface
