import DeviceTypings.Text.Basic

namespace DeviceTypings.CommandLine

/-!
# Signals

The signals that can end another program, by their numbers.
-/

/-- The names of the signals from number one on. -/
def firstSignals : List Text :=
  ["SIGHUP", "SIGINT", "SIGQUIT", "SIGILL", "SIGTRAP", "SIGABRT", "SIGBUS", "SIGFPE", "SIGKILL",
   "SIGUSR1", "SIGSEGV", "SIGUSR2", "SIGPIPE", "SIGALRM", "SIGTERM", "SIGSTKFLT", "SIGCHLD",
   "SIGCONT", "SIGSTOP", "SIGTSTP", "SIGTTIN", "SIGTTOU", "SIGURG", "SIGXCPU", "SIGXFSZ",
   "SIGVTALRM", "SIGPROF", "SIGWINCH", "SIGIO", "SIGPWR", "SIGSYS"]

/-- The name of a signal, if it has one. -/
def signalName? (number : Nat) : Option Text :=
  match number with
  | 34 => some "SIGRTMIN"
  | 64 => some "SIGRTMAX"
  | 0 => none
  | n + 1 => firstSignals[n]?

/-- How a program ended whose status is not zero. A negative status is that of a
signal. -/
def ending (status : Int) : Text :=
  if 0 < status then "returned non-zero exit status " ++ toString status ++ "."
  else
    let number := status.natAbs
    match signalName? number with
    | some name => "died with <Signals." ++ name ++ ": " ++ toString number ++ ">."
    | none => "died with unknown signal " ++ toString number ++ "."

end DeviceTypings.CommandLine
