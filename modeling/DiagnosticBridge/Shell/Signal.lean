import DiagnosticBridge.Check.Ending
import DiagnosticBridge.Shell.Text

namespace DiagnosticBridge.Shell

/-!
# Signals

How a shell speaks of the signals that a process can be sent, and what they do to a process that has
made no arrangements for them.
-/

/-- The words for processes that were ended by one of the usual signals. -/
def usualSignalWords : List (Nat × String) :=
  [(1, "Hangup"), (2, "Interrupt"), (3, "Quit"), (4, "Illegal instruction"),
    (5, "Trace/breakpoint trap"), (6, "Aborted"), (7, "Bus error"),
    (8, "Floating point exception"), (9, "Killed"), (10, "User defined signal 1"),
    (11, "Segmentation fault"), (12, "User defined signal 2"), (13, "Broken pipe"),
    (14, "Alarm clock"), (15, "Terminated"), (16, "Stack fault"), (24, "CPU time limit exceeded"),
    (25, "File size limit exceeded"), (26, "Virtual timer expired"),
    (27, "Profiling timer expired"), (29, "I/O possible"), (30, "Power failure"),
    (31, "Bad system call")]

/-- The first signal of those that have no meaning of their own. -/
def firstFreeSignal : Nat := 34

/-- The words for a process that was ended by a signal. -/
def signalWords (signal : Nat) : String :=
  match usualSignalWords.lookup signal with
  | some words => words
  | none =>
    if firstFreeSignal ≤ signal then s!"Real-time signal {signal - firstFreeSignal}"
    else s!"Unknown signal {signal}"

/-- Whether a signal does nothing to a process that has made no arrangements. -/
def isHarmless (signal : Nat) : Bool := [0, 17, 18, 23, 28].contains signal

/-- Whether a signal makes a process stand still. -/
def stopsProcess (signal : Nat) : Bool := [19, 20, 21, 22].contains signal

/-- How a signal is listed. -/
def signalLabel (signal : Nat) : Text :=
  if signal == 0 then "EXIT".toList
  else if signal == 34 then "RTMIN".toList
  else if 34 < signal && signal < 50 then "RTMIN+".toList ++ decimal (signal - 34)
  else if 50 ≤ signal && signal < 64 then "RTMAX-".toList ++ decimal (64 - signal)
  else if signal == 64 then "RTMAX".toList
  else
    match (if signal == 16 then none else signals.lookup signal) with
    | some name => name.toList
    | none => decimal signal

/-- The greatest number of a signal. -/
def signalCount : Nat := 64

/-- The first signal from a given one on that a text names, by its number or its name in capitals
    or not; zero is the end of a shell. -/
def signalOf? (least : Nat) (text : Text) : Option Nat :=
  match number? text with
  | some n => if n ≤ signalCount then some n else none
  | none =>
    let name := text.map Char.toUpper
    (List.range (signalCount + 1)).find? fun n => least ≤ n && signalLabel n == name

end DiagnosticBridge.Shell
