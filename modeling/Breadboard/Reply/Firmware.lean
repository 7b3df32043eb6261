import Breadboard.Reply.Ansi
import Breadboard.Text.Blank
import Breadboard.Text.Case

/-! The firmware version in a device's answer to the identity query. -/

namespace Breadboard.Firmware

def marker : Text := text "firmware version:"

/-- What follows `lead`, in any case, if the text starts with it. -/
def dropFolded? : (lead : Text) → Text → Option Text
  | [], s => some s
  | _ :: _, [] => none
  | c :: lead, d :: s => if c.fold = d.fold then dropFolded? lead s else none

def word? (s : Text) : Option Text :=
  match s.trimStart.takeWhile (!·.isBlank) with
  | [] => none
  | w => some w

def find? : Text → Option Text
  | [] => none
  | c :: s => ((dropFolded? marker (c :: s)).bind word?).orElse fun _ => find? s

def version? (reply : Text) : Option Text := find? (Ansi.strip reply)

end Breadboard.Firmware
