import SiteDesk.CommandLine.Response
import Std.Time.DateTime.Timestamp

/-!
The program: reads the files that its arguments name, answers, prints.
-/
namespace SiteDesk.CommandLine

def readText? (path : String) : IO (Option String) := do
  try
    return some (← IO.FS.readFile path)
  catch _ => return none

def currentTime : IO Timestamp := do
  let now ← Std.Time.Timestamp.now
  let nanos := now.toNanosecondsSinceUnixEpoch.val
  let perSecond : Int := Timestamp.nanosPerSecond
  return ⟨Int.fdiv nanos perSecond, (Int.fmod nanos perSecond).toNat⟩

/-- Ids that count up from a number, in as many hexadecimal digits as an id has. -/
def idsFrom (start n : Nat) : String :=
  let digits := Nat.toDigits 16 (start + n)
  String.ofList (List.replicate (idLength - digits.length) '0' ++ digits)

def readFiles (args : List String) : IO (List (String × Option String)) :=
  match Request.ofArguments args with
  | .ok request => request.files.mapM fun path => do return (path, ← readText? path)
  | .error _ => return []

end SiteDesk.CommandLine

open SiteDesk.CommandLine

def main (args : List String) : IO UInt32 := do
  let files ← readFiles args
  let start ← IO.rand 0 (Nat.pow 2 92)
  let stamp : SiteDesk.Stamp := ⟨idsFrom start, ← currentTime⟩
  let response := respond (fun path => (files.lookup path).join) stamp args
  IO.print response.printed.render
  if let some complaint := response.complaint then IO.eprint complaint
  return response.exitCode.toUInt32
