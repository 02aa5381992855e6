import DateTemplate.Calendar.DayNumber
import DateTemplate.Program.Run
import Std.Time.DateTime.Timestamp

set_option autoImplicit false

/-!
# The program

The outer layer: it runs the program on the files, the environment and the clock of the machine.
-/

namespace DateTemplate.Main

/-- The number of a failure, which may be given with a minus sign. -/
def failureNumber (code : UInt32) : Nat := min code.toNat (UInt32.size - code.toNat)

/-- Why an operation on a file failed. -/
def fileError : IO.Error → FileError
  | .noFileOrDirectory .. => .missing
  | .inappropriateType _ code _ =>
    if failureNumber code = 20 then .notDirectory else .isDirectory
  | .permissionDenied .. => .other "Permission denied (os error 13)".toList
  | e => .other e.toString.toList

/-- The text of some bytes. -/
def decode (bytes : ByteArray) : Except FileError Text :=
  match String.fromUTF8? bytes with
  | some s => .ok s.toList
  | none => .error .notText

/-- The bytes that are left on standard input, behind some. -/
partial def inputBytes (input : IO.FS.Stream) (front : ByteArray) : IO ByteArray := do
  let bytes ← input.read 65536
  if bytes.isEmpty then return front else inputBytes input (front ++ bytes)

/-- Whether a failure shows that nothing is at a path. -/
def isAbsence (e : FileError) : Bool := e == .missing || e == .notDirectory

/-- The seconds since the beginning of 1970. -/
def seconds : IO Int := do return (← Std.Time.Timestamp.now).toSecondsSinceUnixEpoch.val

/-- The day of some seconds since the beginning of 1970. -/
def dayOf (seconds : Int) : Date :=
  let epoch : Date := ⟨1970, 1, 1, by decide⟩
  (epoch.addDays? (seconds / 86400)).getD epoch

/-- The time of some seconds since the beginning of 1970, as log lines show it. -/
def stampOf (seconds : Int) : Text :=
  let s := (seconds % 86400).toNat
  (dayOf seconds).text ++ 'T' :: Decimal.padded 2 (s / 3600) ++ ':' :: Decimal.padded 2 (s / 60 % 60)
    ++ ':' :: Decimal.padded 2 (s % 60) ++ "Z ".toList

/-- The machine that the program runs on. -/
def machine : Host IO where
  exists? p := do
    match ← (IO.FS.Handle.mk (String.ofList p) .read).toBaseIO with
    | .ok _ => return true
    | .error e => return !isAbsence (fileError e)
  read p := do
    match ← (IO.FS.readBinFile (String.ofList p)).toBaseIO with
    | .ok bytes => return decode bytes
    | .error e => return .error (fileError e)
  write p t := do
    match ← (IO.FS.writeFile (String.ofList p) (String.ofList t)).toBaseIO with
    | .ok () => return .ok ()
    | .error e => return .error (fileError e)
  input := do return decode (← inputBytes (← IO.getStdin) .empty)
  environment name := do return (← IO.getEnv (String.ofList name)).map (·.toList)
  today := do return dayOf (← seconds)
  stamp := do return stampOf (← seconds)
  place _ := []
  logFilter := LogFilter.read

end DateTemplate.Main

/-- Runs the program on its arguments; its status tells how that went. -/
def main (args : List String) : IO UInt32 := do
  let completion ← DateTemplate.Program.run DateTemplate.Main.machine (args.map (·.toList))
  IO.print (String.ofList completion.out)
  IO.eprint (String.ofList completion.err)
  return completion.status.toUInt32
