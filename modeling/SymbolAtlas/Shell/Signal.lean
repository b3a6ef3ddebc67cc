/-
# SymbolAtlas.Shell.Signal — signals and their names

A signal is known by its number. Zero is no signal; where traps are set it stands for the end of the
script.
-/
import SymbolAtlas.Shell.Octets

namespace SymbolAtlas.Shell.Signal

/-- The signals: their numbers, their names, and what is reported of a program that they end. -/
def table : List (Nat × String × String) :=
  [(1, "HUP", "Hangup"), (2, "INT", ""), (3, "QUIT", "Quit"), (4, "ILL", "Illegal instruction"),
    (5, "TRAP", "Trace/breakpoint trap"), (6, "ABRT", "Aborted"), (7, "BUS", "Bus error"),
    (8, "FPE", "Floating point exception"), (9, "KILL", "Killed"),
    (10, "USR1", "User defined signal 1"), (11, "SEGV", "Segmentation fault"),
    (12, "USR2", "User defined signal 2"), (13, "PIPE", ""), (14, "ALRM", "Alarm clock"),
    (15, "TERM", "Terminated"), (16, "STKFLT", "Stack fault"), (17, "CHLD", "Child exited"),
    (18, "CONT", "Continued"), (19, "STOP", "Stopped (signal)"), (20, "TSTP", "Stopped"),
    (21, "TTIN", "Stopped (tty input)"), (22, "TTOU", "Stopped (tty output)"),
    (23, "URG", "Urgent I/O condition"), (24, "XCPU", "CPU time limit exceeded"),
    (25, "XFSZ", "File size limit exceeded"), (26, "VTALRM", "Virtual timer expired"),
    (27, "PROF", "Profiling timer expired"), (28, "WINCH", "Window changed"),
    (29, "IO", "I/O possible"), (30, "PWR", "Power failure"), (31, "SYS", "Bad system call")]

/-- The signal of a name, in upper or lower case. -/
def named? (name : Text) : Option Nat :=
  let upper := String.ofList (name.map Char.toUpper)
  if upper == "EXIT" then some 0
  else (table.find? fun (_, name, _) => name == upper).map (·.1)

/-- The signal that a number or a name stands for. -/
def ofText? (text : Text) : Option Nat :=
  if Octets.isNumber text then
    let number := Octets.numberOf text
    if number < 65 then some number else none
  else named? text

/-- The name of a signal; its number if it has none. -/
def name (signal : Nat) : String :=
  if signal = 0 then "EXIT"
  else match table.find? fun (number, _, _) => number = signal with
    | some (_, name, _) => name
    | none => toString signal

/-- What is reported of a program that a signal has ended. -/
def report (signal : Nat) : String :=
  match table.find? fun (number, _, _) => number = signal with
  | some (_, _, report) => report
  | none => ""

/-- Signals that do not end a program which does nothing about them. -/
def harmless : List Nat := [0, 17, 18, 23, 28]

end SymbolAtlas.Shell.Signal
