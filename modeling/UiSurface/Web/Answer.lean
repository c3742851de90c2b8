import UiSurface.Json.Depth
import UiSurface.Problem
import UiSurface.Web.Body

/-!
# Answers — what the service says to a request

An answer has a status and, unless it is empty, a JSON value for a body.  JSON knows no infinite
numbers, so they are null in a body.  Values of any shape in a body may be only so deep.  A body is
written in UTF-8, which has no surrogates.
-/

namespace UiSurface

/-- An answer. -/
structure Answer where
  status : Nat
  body : Option Json
deriving DecidableEq

namespace Answer

/-! ## Finite values -/

mutual

/-- A value with null for every number that is not finite. -/
def finite : Json → Json
  | .num (.float x) => match x.shape with
    | .finite .. => .num (.float x)
    | .nan | .infinite _ => .null
  | .arr items => .arr (finiteItems items)
  | .obj members => .obj (finiteMembers members)
  | .num (.int n) => .num (.int n)
  | .null => .null
  | .bool b => .bool b
  | .str s => .str s

def finiteItems : List Json → List Json
  | [] => []
  | v :: vs => finite v :: finiteItems vs

def finiteMembers : List (String × Json) → List (String × Json)
  | [] => []
  | (k, v) :: ms => (k, finite v) :: finiteMembers ms

end

/-! ## Kinds of answers -/

/-- An answer with a body. -/
def json (status : Nat) (body : Json) : Answer := ⟨status, some (finite body)⟩

/-- An answer that says why there is no other. -/
def detail (status : Nat) (text : String) : Answer := json status (.obj [("detail", .str text)])

/-- The answer to a path that leads nowhere. -/
def notFound : Answer := detail 404 "Not Found"

/-- The answer to a design that there is not. -/
def noDesign : Answer := detail 404 "Design not found."

def methodNotAllowed : Answer := detail 405 "Method Not Allowed"

/-- The answer to a path with slashes too many. -/
def redirect : Answer := ⟨307, none⟩

def encodeProblem (p : Problem) : Json :=
  .obj [("path", .str p.place), ("message", .str p.message), ("kind", .str p.kindName)]

/-- The answer to a batch that is refused. -/
def rejected (problems : List Problem) : Answer :=
  json 422 (.obj [("detail", .str "Invalid A2UI messages"),
    ("errors", .arr (problems.map encodeProblem))])

/-- What is wrong at a place of the body. -/
def encodeFault (place : List Json) (word : String) : Json :=
  .obj [("loc", .arr (.str "body" :: place)), ("type", .str word)]

def encodeBodyFault : BodyFault → List Json
  | .absent => [encodeFault [] "missing"]
  | .malformed offset => [encodeFault [.ofInt offset] "json_invalid"]
  | .notObject _ => [encodeFault [] "model_attributes_type"]
  | .fields problems => problems.map (fun p => encodeFault [.str p.field] p.fault.name)
  | .unreadable => []

/-- Whether JSON can say a value. -/
def isFinite (v : Json) : Bool := finite v = v

/-- The answer to a body that is not as it must be.  It has to say what was found, so there is none
where that holds an infinite number. -/
def badBody? : BodyFault → Option Answer
  | .unreadable => some (detail 400 "There was an error parsing the body")
  | fault =>
    if fault.found.all isFinite then
      some (json 422 (.obj [("detail", .arr (encodeBodyFault fault))]))
    else none

/-! ## Deep values -/

/-- Where it shows that a value is too deep for an answer. -/
inductive DepthFault where
  /-- while the answer is put together -/
  | atAssembly
  /-- while the answer is written -/
  | atWriting
deriving DecidableEq

def DepthFault.message : DepthFault → String
  | atAssembly => "Maximum serialization depth exceeded"
  | atWriting => "Error serializing to JSON: ValueError: Maximum serialization depth exceeded"

/-- How deep a value of any shape may be in an answer. -/
def maxDepth : Nat := 255

/-- An answer that holds values of any shape, if none is too deep. -/
def withValues (fault : DepthFault) (values : List Json) (answer : Answer) :
    Except DepthFault Answer :=
  if values.all (fun v => v.depth ≤ maxDepth) then .ok answer else .error fault

/-! ## Writing -/

mutual

/-- The texts in a value, the names of its members among them, in the order in which they stand. -/
def texts : Json → List String
  | .str s => [s]
  | .arr items => textsOfItems items
  | .obj members => textsOfMembers members
  | .null => []
  | .bool _ => []
  | .num _ => []

def textsOfItems : List Json → List String
  | [] => []
  | v :: vs => texts v ++ textsOfItems vs

def textsOfMembers : List (String × Json) → List String
  | [] => []
  | (k, v) :: ms => k :: (texts v ++ textsOfMembers ms)

end

/-- How the body of an answer is written. -/
inductive Writing where
  /-- it is put together before it is encoded (`JSONResponse.render`) -/
  | whole
  /-- each of its texts is encoded by itself (the serializer of a response model) -/
  | inPieces
deriving DecidableEq

namespace Writing

/-- What is encoded of a body, one after the other. -/
def encoded : Writing → Json → List String
  | whole, body => [body.toCompact]
  | inPieces, body => texts body

end Writing

/-- A text that UTF-8 does not have, where an answer is written. -/
structure WritingFault where
  writing : Writing
  text : String
deriving DecidableEq

def WritingFault.message (fault : WritingFault) : String :=
  match fault.writing with
  | .whole => Text.Codec.utf8.refusal fault.text
  | .inPieces => Text.Codec.utf8.serializingRefusal fault.text

/-- The first text that keeps an answer from being written. -/
def unwritten? (writing : Writing) (answer : Answer) : Option WritingFault :=
  let encoded := answer.body.toList.flatMap writing.encoded
  (encoded.find? fun text => !Text.Codec.utf8.takesText text).map fun text => ⟨writing, text⟩

/-- The fault of an answer that has to say what was found in a body, where that can not be written. -/
def unsaid? (fault : BodyFault) : Option WritingFault :=
  ((fault.found.map Json.toCompact).find? fun text => !Text.Codec.utf8.takesText text).map
    fun text => ⟨.whole, text⟩

end Answer

end UiSurface
