import Manuscript.Config.Key
import Manuscript.Files.Tasks

/-! What is outside: variables, the order of maps, and programs, with what is said of their work. -/

namespace Manuscript

/-- What is known of where programs are, and of what may be otherwise at each call. -/
structure Environment where
  /-- The value of a variable that is set. -/
  valueOf : String → Option String
  /-- Where the program of a name is found. -/
  programAt : String → Option Path
  /-- How templates are gone through that are kept by their keys. -/
  order : EntryOrder String String := .byKey
  /-- How the tables of a configuration are gone through. -/
  tables : EntryOrder String Config.Value := .asListed

namespace Environment

/-- The path that a variable names; an empty value names none. -/
def path? (environment : Environment) (key : String) : Option Path :=
  ((environment.valueOf key).filter (· ≠ "")).map Path.ofString

/-- The first of some names under which a program is found. -/
def firstProgram? (environment : Environment) (names : List String) : Option Path :=
  names.findSome? environment.programAt

end Environment

/-- What is said of a program that could not be started. -/
def launchReason (tool : String) (program : Path) (fault : FileFault) : String :=
  "Failed to launch " ++ tool ++ " (" ++ program.text ++ "): " ++ fault.message

/-- What is said of a program of whose end nothing could be learned. -/
def waitReason (tool : String) (fault : FileFault) : String :=
  "Failed to wait for " ++ tool ++ ": " ++ fault.message

/-- How a program ended that came to its end. -/
inductive ExitStatus where
  /-- By itself, with a code. -/
  | exited (code : Nat)
  /-- By a signal, and its memory was dumped or not. -/
  | signalled (number : Nat) (dumped : Bool)
  deriving DecidableEq

namespace ExitStatus

/-- The names of the signals, from the first one on. -/
def signalNames : List String :=
  ["SIGHUP", "SIGINT", "SIGQUIT", "SIGILL", "SIGTRAP", "SIGABRT", "SIGBUS", "SIGFPE", "SIGKILL",
   "SIGUSR1", "SIGSEGV", "SIGUSR2", "SIGPIPE", "SIGALRM", "SIGTERM", "SIGSTKFLT", "SIGCHLD",
   "SIGCONT", "SIGSTOP", "SIGTSTP", "SIGTTIN", "SIGTTOU", "SIGURG", "SIGXCPU", "SIGXFSZ",
   "SIGVTALRM", "SIGPROF", "SIGWINCH", "SIGIO", "SIGPWR", "SIGSYS"]

/-- The name of a signal in parentheses, if it has one. -/
def signalLabel : Nat → String
  | 0 => ""
  | number + 1 =>
    match signalNames[number]? with
    | some name => " (" ++ name ++ ")"
    | none => ""

/-- How it is told how a program ended. -/
def text : ExitStatus → String
  | .exited code => "exit status: " ++ toString code
  | .signalled number dumped =>
    "signal: " ++ toString number ++ signalLabel number ++ if dumped then " (core dumped)" else ""

end ExitStatus

/-- How a program ended that messages call by a name of its own, or why that is not known. -/
def toolResult (tool : String) (command : Command) : Outcome → Except ConvertError ExitStatus
  | .unstarted fault => .error (.compile (launchReason tool command.program fault))
  | .ended code => .ok (.exited code)
  | .killed number dumped => .ok (.signalled number dumped)
  | .lost fault => .error (.compile (waitReason tool fault))
  | .overran => .error (.timeout tool command.limit)

/-- Runs a program, which messages call by a name of its own, and tells how it ended. -/
def runTool (tool : String) (command : Command) : Task (Except ConvertError ExitStatus) :=
  .start command fun outcome => .done (toolResult tool command outcome)

namespace Task

/-- Work in a temporary folder, which is removed at the end, or what is done where none is made. -/
def inTemporary {α : Type} (failed : FileFault → Task α) (work : Path → Task α) : Task α :=
  .makeTemporary fun answer =>
    match answer with
    | .error fault => failed fault
    | .ok folder => do
      -- The folder goes whatever the work came to.
      let result ← work folder
      .removeTemporary folder (.done result)

end Task

end Manuscript
