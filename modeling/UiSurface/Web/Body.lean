import UiSurface.Design.Save
import UiSurface.Json.Encoded
import UiSurface.Text.Codec

/-!
# Bodies — what a request must hold

A body is an object with fields of known names.  Each field has a rule; what breaks a rule is told
by its place, by a word for the rule, and by what was found.  Fields come in the order of their
declaration, unknown ones after them.
-/

namespace UiSurface

/-! ## Rules of fields -/

/-- What is wrong with a field. -/
inductive FieldFault where
  | missing
  | unknown
  | notText
  /-- UTF-8 does not have the text -/
  | textNotUnicode
  | textTooShort
  | textTooLong
  | textPattern
  | notList
  | listTooShort
  | notObject
deriving DecidableEq

def FieldFault.name : FieldFault → String
  | missing => "missing"
  | unknown => "extra_forbidden"
  | notText => "string_type"
  | textNotUnicode => "string_unicode"
  | textTooShort => "string_too_short"
  | textTooLong => "string_too_long"
  | textPattern => "string_pattern_mismatch"
  | notList => "list_type"
  | listTooShort => "too_short"
  | notObject => "dict_type"

/-- A field of a body. -/
structure Field where
  name : String
  required : Bool
  rule : Json → Option FieldFault

namespace Field

def text : Json → Option FieldFault
  | .str _ => none
  | _ => some .notText

/-- A text of which something is asked is read as UTF-8 first. -/
def fullText : Json → Option FieldFault
  | .str s =>
    if !Text.Codec.utf8.takesText s then some .textNotUnicode
    else if s.isEmpty then some .textTooShort
    else none
  | _ => some .notText

/-- An id of a design. -/
def designId : Json → Option FieldFault
  | .str s =>
    if !Text.Codec.utf8.takesText s then some .textNotUnicode
    else if Design.maxIdLength < s.length then some .textTooLong
    else if s.isEmpty then some .textTooShort
    else if !Design.isIdText s then some .textPattern
    else none
  | _ => some .notText

def list : Json → Option FieldFault
  | .arr _ => none
  | _ => some .notList

def fullList : Json → Option FieldFault
  | .arr [] => some .listTooShort
  | .arr _ => none
  | _ => some .notList

def object : Json → Option FieldFault
  | .obj _ => none
  | _ => some .notObject

/-- Null, or what another rule allows. -/
def orNull (rule : Json → Option FieldFault) : Json → Option FieldFault
  | .null => none
  | v => rule v

/-- What is wrong with the value of a field. -/
def check (f : Field) : Option Json → Option FieldFault
  | some v => f.rule v
  | none => if f.required then some .missing else none

end Field

/-! ## Bodies -/

/-- A field that breaks a rule. -/
structure FieldProblem where
  field : String
  fault : FieldFault
  /-- the value of the field, or the whole body if the field is missing -/
  found : Json
deriving DecidableEq

/-- What is wrong with a body. -/
inductive BodyFault where
  | absent
  | malformed (offset : Nat)
  | notObject (found : Json)
  /-- the text could not be read at all -/
  | unreadable
  | fields (problems : List FieldProblem)
deriving DecidableEq

/-- What was found in a body that is not as it must be. -/
def BodyFault.found : BodyFault → List Json
  | notObject v => [v]
  | fields problems => problems.map FieldProblem.found
  | absent | malformed _ | unreadable => []

namespace Body

/-- What is wrong with the members of a body. -/
def problems (fields : List Field) (members : Record Json) : List FieldProblem :=
  fields.filterMap (fun f =>
      let value? := Record.get? members f.name
      (f.check value?).map (fun fault => ⟨f.name, fault, value?.getD (.obj members)⟩)) ++
    ((Record.keys members).filter (fun key => !fields.any (fun f => f.name == key))).map
      (fun key => ⟨key, .unknown, Json.field members key⟩)

/-- The members of a body that obeys the rules of its fields. -/
def read (fields : List Field) (text : String) : Except BodyFault (Record Json) :=
  if text.isEmpty then .error .absent
  else match Json.ofEncoded text with
    -- bytes in no encoding and too long an integer have no place to point at
    | .error .undecodable | .error (.text (.digits _)) => .error .unreadable
    | .error (.text (.malformed _ _ _ offset)) => .error (.malformed offset)
    | .ok (.obj members) => match problems fields members with
      | [] => .ok members
      | problems => .error (.fields problems)
    | .ok v => .error (.notObject v)

/-! ## The three bodies -/

/-- The fields of a wish to save a design. -/
def saveFields : List Field :=
  [⟨"id", false, Field.orNull Field.designId⟩, ⟨"messages", true, Field.list⟩]

/-- Reads a wish to save a design. -/
def save (text : String) : Except BodyFault Design.SaveRequest :=
  (read saveFields text).map fun members =>
    ⟨(Json.field members "id").text?, (Json.field members "messages").items?.getD []⟩

/-- A wish to push a batch, to one device or to all. -/
structure Push where
  device : Option String
  messages : List Json
deriving DecidableEq

def pushFields : List Field :=
  [⟨"device_id", false, Field.orNull Field.text⟩, ⟨"messages", true, Field.fullList⟩]

/-- Reads a wish to push a batch.  An empty device stands for all. -/
def push (text : String) : Except BodyFault Push :=
  (read pushFields text).map fun members =>
    ⟨(Json.field members "device_id").name?, (Json.field members "messages").items?.getD []⟩

/-- A wish to push a design, with an overlay for its data model. -/
structure PushDesign where
  design : String
  overlay : Record Json
deriving DecidableEq

def pushDesignFields : List Field :=
  [⟨"design_id", true, Field.fullText⟩, ⟨"data_model", false, Field.orNull Field.object⟩]

/-- Reads a wish to push a design. -/
def pushDesign (text : String) : Except BodyFault PushDesign :=
  (read pushDesignFields text).map fun members =>
    ⟨(Json.field members "design_id").text?.getD "",
      (Json.field members "data_model").members?.getD []⟩

end Body

end UiSurface
