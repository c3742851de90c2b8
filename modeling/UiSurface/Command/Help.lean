/-!
# Help — what the command line says about itself
-/

namespace UiSurface.Command

def version : String := "0.1.0"

/-- The lines of the help text (`print_help`). -/
def helpLines : List String :=
  ["",
   "A2UI CLI v" ++ version,
   "",
   "Usage:",
   "  a2ui [options] <command> [FILE | ID]",
   "",
   "Commands:",
   "  validate FILE     Check a message batch (JSON array or JSON-lines)",
   "  view FILE         Fold a batch into a surface and print its outline",
   "  push FILE         Send a batch to connected devices",
   "  save FILE         Store a complete batch as a design",
   "  designs           List stored designs",
   "  push-design ID    Send a stored design to every connected device",
   "  devices           List connected devices",
   "",
   "Options:",
   "  --live            validate: apply message by message, skipping broken ones",
   "  --device ID       push: send to one device instead of all",
   "  --id ID           save: design id (default: the createSurface surfaceId)",
   "  --data FILE       push-design: JSON object merged into the design's data model",
   "  --api-url URL     Override API endpoint (default: http://localhost:8000)",
   "  -h, --help        Show this help",
   "  -v, --version     Show version",
   "",
   "Environment:",
   "  A2UI_API_URL      Override API endpoint (same as --api-url)",
   "",
   "Examples:",
   "  a2ui validate designs/tile_hello.a2ui.json",
   "  a2ui view designs/tile_hello.a2ui.json",
   "  a2ui push designs/tile_hello.a2ui.json --device phone-1",
   "  a2ui save designs/tile_hello.a2ui.json",
   "  a2ui push-design tile_hello --data overlay.json",
   "  a2ui devices --api-url http://localhost:9000",
   ""]

def versionLine : String := "a2ui " ++ version

end UiSurface.Command
