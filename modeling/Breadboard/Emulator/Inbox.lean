import Breadboard.Text.Blank
import Breadboard.Text.Utf8

/-! The inbox gathers what clients write. Whatever it holds after a read is one request, unless it
is blank. -/

namespace Breadboard.Inbox

def feed (held data : Bytes) : Option Text × Bytes :=
  match (Utf8.decodeReplacing (held ++ data)).trim with
  | [] => (none, held ++ data)
  | request => (some request, [])

end Breadboard.Inbox
