import DateTemplate.Bindings
import DateTemplate.Log.Filter
import DateTemplate.Path

set_option autoImplicit false

/-!
# The outside

What the program asks of what surrounds it: files, standard input, the environment, today's date and
how directives choose log lines.
The program is written against a `Host` in any monad, and leaves what it prints as a `Completion`.
-/

namespace DateTemplate

/-- Why a file could not be read or written. -/
inductive FileError where
  | missing
  | notDirectory
  | isDirectory
  /-- What was read is no text. -/
  | notText
  | other (message : Text)
deriving DecidableEq, Repr

/-- The wording of a failure. -/
def FileError.message : FileError → Text
  | missing => "No such file or directory (os error 2)".toList
  | notDirectory => "Not a directory (os error 20)".toList
  | isDirectory => "Is a directory (os error 21)".toList
  | notText => "stream did not contain valid UTF-8".toList
  | other message => message

/-- What surrounds the program. -/
structure Host (m : Type → Type) where
  /-- Whether something is at a path. -/
  exists? : Path → m Bool
  /-- The text of a file. -/
  read : Path → m (Except FileError Text)
  /-- Makes a text the whole content of a file. -/
  write : Path → Text → m (Except FileError Unit)
  /-- The text of standard input. -/
  input : m (Except FileError Text)
  /-- The value of a name in the environment. -/
  environment : Text → m (Option Text)
  /-- Today's date in UTC. -/
  today : m Date
  /-- What stands before a log line: the time, or nothing. -/
  stamp : m Text
  /-- What a line of a log file tells of where its source stands in the program, or nothing. -/
  place : LogSource → Text
  /-- Which log lines pass by directives, and by a level where there are none. -/
  logFilter : Text → LogLevel → LogFilter

/-- What a run leaves: its output, its messages and its exit status. -/
structure Completion where
  out : Text := []
  err : Text := []
  status : Nat := 0
deriving DecidableEq, Repr

/-- A completion whose messages stand behind others. -/
def Completion.behind (messages : Text) (c : Completion) : Completion :=
  { c with err := messages ++ c.err }

@[simp] theorem Completion.out_behind (messages : Text) (c : Completion) :
    (c.behind messages).out = c.out := rfl

@[simp] theorem Completion.err_behind (messages : Text) (c : Completion) :
    (c.behind messages).err = messages ++ c.err := rfl

@[simp] theorem Completion.status_behind (messages : Text) (c : Completion) :
    (c.behind messages).status = c.status := rfl

theorem Completion.behind_behind (first second : Text) (c : Completion) :
    (c.behind second).behind first = c.behind (first ++ second) := by
  simp [behind]

/-- The part of the environment that some names have. -/
def Host.lookup {m : Type → Type} [Monad m] (host : Host m) (names : List Text) :
    m (Bindings Text) := do
  let pairs ← names.mapM fun name => do return (← host.environment name).map ((name, ·))
  return Bindings.ofList (pairs.filterMap id)

end DateTemplate
