import UiSurface.Json.Writer
import UiSurface.Text.Codec

/-!
# Frames — the texts that a device and the service exchange

A device registers, the service acknowledges, and then sends batches of messages.  Each frame is a
JSON object with a member that names its type.  All frames are in ASCII but the acknowledgement,
which holds the id as it is and so can not be written for every id.
-/

namespace UiSurface

/-- What a device says about itself when it registers. -/
structure Registration where
  platform : String
  /-- the id that the device wants, if it wants one -/
  id : Option String
deriving DecidableEq

namespace Frame

/-- The frame that registers a device. -/
def register (platform id : String) : String :=
  Json.toText (.obj [("type", .str "register"), ("platform", .str platform), ("deviceId", .str id)])

/-- The frame that acknowledges a registration, or why it can not be written. -/
def acknowledge (id : String) : Except String String :=
  if Text.Codec.utf8.takesText id then
    .ok (Json.toCompact (.obj [("type", .str "registered"), ("deviceId", .str id)]))
  else .error (Text.Codec.utf8.serializingRefusal id)

/-- The frame that carries a batch (`messages_frame`). -/
def messages (batch : List Json) : String :=
  Json.toText (.obj [("type", .str "a2ui_messages"), ("messages", .arr batch)])

/-- The platform of a registration; a device that names none is on an unknown one. -/
def platform? (members : Record Json) : Option String :=
  match Record.get? members "platform" with
  | none => some "unknown"
  | some v => v.text?

/-- The id of a registration, which may be left out; an empty one counts as left out. -/
def wantedId? (members : Record Json) : Option (Option String) :=
  match Json.field members "deviceId" with
  | .null => some none
  | .str id => some (if id.isEmpty then none else some id)
  | _ => none

/-- The registration in a value, if it is one. -/
def registration? : Json → Option Registration
  | .obj members =>
    if Json.field members "type" = .str "register" then do
      return ⟨← platform? members, ← wantedId? members⟩
    else none
  | _ => none

end Frame

end UiSurface
