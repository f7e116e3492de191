namespace DiagnosticBridge

/-!
# How processes end

A process ends with a status, or by a signal that is sent to it.  Signals have names.
-/

/-- How a process has ended. -/
inductive Ending where
  /-- With a status. -/
  | exited (status : Nat)
  /-- By a signal. -/
  | killed (signal : Nat)
  deriving DecidableEq, Repr

/-- The signals. -/
def signals : List (Nat × String) :=
  [(1, "HUP"), (2, "INT"), (3, "QUIT"), (4, "ILL"), (5, "TRAP"), (6, "ABRT"), (7, "BUS"),
    (8, "FPE"), (9, "KILL"), (10, "USR1"), (11, "SEGV"), (12, "USR2"), (13, "PIPE"),
    (14, "ALRM"), (15, "TERM"), (16, "STKFLT"), (17, "CHLD"), (18, "CONT"), (19, "STOP"),
    (20, "TSTP"), (21, "TTIN"), (22, "TTOU"), (23, "URG"), (24, "XCPU"), (25, "XFSZ"),
    (26, "VTALRM"), (27, "PROF"), (28, "WINCH"), (29, "IO"), (30, "PWR"), (31, "SYS")]

/-- The name of a signal, if it has one. -/
def signalName? (signal : Nat) : Option String := (signals.lookup signal).map ("SIG" ++ ·)

/-- The wording of an ending. -/
def Ending.message : Ending → String
  | exited status => s!"exit status: {status}"
  | killed signal =>
    s!"signal: {signal}" ++ ((signalName? signal).map fun name => s!" ({name})").getD ""

end DiagnosticBridge
