import SyntaxSweep.Text.Octets

namespace SyntaxSweep.Signals

def count : Nat := 64

def firstNames : List String :=
  ["EXIT", "HUP", "INT", "QUIT", "ILL", "TRAP", "ABRT", "BUS", "FPE", "KILL", "USR1", "SEGV", "USR2",
    "PIPE", "ALRM", "TERM", "16", "CHLD", "CONT", "STOP", "TSTP", "TTIN", "TTOU", "URG", "XCPU", "XFSZ",
    "VTALRM", "PROF", "WINCH", "IO", "PWR", "SYS"]

def name (number : Nat) : String :=
  match firstNames[number]? with
  | some name => name
  | none =>
    if number < 34 then toString number
    else if number = 34 then "RTMIN"
    else if number < 50 then s!"RTMIN+{number - 34}"
    else if number < 64 then s!"RTMAX-{64 - number}"
    else "RTMAX"

def ofOctets? (least : Nat) (octets : Octets) : Option Nat :=
  if octets ≠ [] ∧ octets.all Char.isDigit then
    let n := octets.foldl (fun n d => min 1000 (n * 10 + (d.toNat - '0'.toNat))) 0
    if n ≤ count then some n else none
  else
    let upper := octets.map Char.toUpper
    (List.range (count + 1)).find? fun n => least ≤ n && (name n).toList == upper

def meanings : List String :=
  ["", "Hangup", "Interrupt", "Quit", "Illegal instruction", "Trace/breakpoint trap", "Aborted",
    "Bus error", "Floating point exception", "Killed", "User defined signal 1", "Segmentation fault",
    "User defined signal 2", "Broken pipe", "Alarm clock", "Terminated", "Stack fault", "Child exited",
    "Continued", "Stopped (signal)", "Stopped", "Stopped (tty input)", "Stopped (tty output)",
    "Urgent I/O condition", "CPU time limit exceeded", "File size limit exceeded",
    "Virtual timer expired", "Profiling timer expired", "Window changed", "I/O possible",
    "Power failure", "Bad system call"]

def meaning (number : Nat) : String :=
  match meanings[number]? with
  | some text => text
  | none => if number < 34 then s!"Unknown signal {number}" else s!"Real-time signal {number - 34}"

/-- What is said when a command has been ended by a signal. Nothing is said of an interrupt, nor of a
reader that is gone. -/
def notice? (number : Nat) : Option String :=
  if number = 2 ∨ number = 13 then none else some (meaning number)

end SyntaxSweep.Signals
