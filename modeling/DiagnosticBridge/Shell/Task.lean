import DiagnosticBridge.Shell.State

namespace DiagnosticBridge.Shell

/-!
# Tasks, and signals to them

A task is a process that its parent does not wait for when it begins.  The parent may wait for it
later, and processes may send signals to it and to each other.

* `send` — a signal waits until the clock of the process to which it is sent has come to its time;
  a task that has been looked at beyond that time is taken back to the step before.
* `passFrom` — tasks are looked at in the order of time, one step at a time.
* `await` — waiting for tasks ends early if a signal comes that is not ignored.
-/

namespace Process

/-- Whether a signal ends a process or makes it do something. -/
def minds (p : Process) (signal : Nat) : Bool :=
  match (if signal == 9 then none else p.traps.lookup signal) with
  | some action => !action.isEmpty
  | none => !isHarmless signal

/-- Whether a signal ends a process. -/
def diesOf (p : Process) (signal : Nat) : Bool :=
  p.minds signal && (signal == 9 || (p.traps.lookup signal).isNone) && !stopsProcess signal

end Process

namespace ShellM

/-! ### Signals -/

/-- The first of the signals to the process that are such. -/
def firstSignal? (isSuch : Process → Delivery → Bool) : ShellM (Option Delivery) := do
  let s ← get
  let found := s.pending.filter fun d => d.target == s.process.number && isSuch s.process d
  return (found.mergeSort fun a b => a.time ≤ b.time).head?

/-- Changes a task. -/
def changeTask (number : Nat) (change : Task → Task) : ShellM Unit := modify fun s =>
  { s with tasks := s.tasks.map fun t => if t.number == number then change t else t }

/-- Sends a signal. -/
def post (d : Delivery) : ShellM Unit := modify fun s => { s with pending := s.pending ++ [d] }

/-- Notices that a child for which the process waited has ended. -/
def noticeChild : ShellM Unit := do
  let p ← process
  if (p.traps.lookup 17).any (!·.isEmpty) then post ⟨p.number, 17, p.clock, []⟩

/-- Takes back what a process and its children have done to others after a time. -/
def retract (number since : Nat) : ShellM Unit := modify fun s =>
  let stays (numbers : List Nat) (time : Nat) : Bool := !numbers.contains number || time ≤ since
  let valid (chunks : List Chunk) : List Chunk := chunks.filter fun c => stays c.writers c.time
  let sent (signals : List Delivery) : List Delivery :=
    signals.filter fun d => stays d.senders d.time
  let began (t : Task) : Nat :=
    match t.past.getLast?, t.stage with
    | some (process, _), _ => process.clock
    | none, .paused process _ => process.clock
    | none, _ => 0
  { s with
    channels := s.channels.map fun
      | .report written => .report (valid written)
      | .pipe unread closed => .pipe (valid unread) closed
      | channel => channel
    pending := sent s.pending
    tasks := (s.tasks.filter fun t => stays t.ancestors (began t)).map fun t =>
      { t with signals := sent t.signals } }

/-- Takes a task back to its last step before a time, or else to its first one. -/
def takeBack (t : Task) (now : Nat) : ShellM Unit := do
  let before := t.past.dropWhile (now < ·.1.clock)
  match (if before.isEmpty then t.past.getLast?.toList else before) with
  | [] => return
  | (process, steps) :: past =>
    retract t.number process.clock
    changeTask t.number fun t => { t with stage := .paused process steps, past := past }
    modify fun s =>
      { s with
        pending := s.pending.filter (·.target != t.number) ++
          t.signals.filter (process.clock < ·.time) }

/-- Sends a signal to a task; says whether that is still there. -/
def sendToTask (t : Task) (d : Delivery) : ShellM Bool := do
  let p ← process
  let isOwn := p.jobs.any (·.number == t.number)
  if t.hasEnded (if isOwn then p.lastWait else p.clock) then return false
  if d.signal == 0 || t.hasEnded p.clock then return true
  let isAhead : Bool := match t.stage with
    | .paused process _ => p.clock < process.clock
    | .running => false
    | _ => true
  if isAhead then takeBack t p.clock
  changeTask t.number fun t => { t with signals := t.signals ++ [d] }
  post d
  return true

/-- Sends a signal to the process of a number; says whether there is one. -/
def send (target signal : Nat) : ShellM Bool := do
  let s ← get
  let p := s.process
  let delivery (number : Nat) : Delivery := ⟨number, signal, p.clock, p.number :: p.ancestors⟩
  if target == 0 || target == p.number then
    if p.diesOf signal then throw (.killed p.number signal)
    if p.minds signal then post (delivery p.number)
    return true
  else if p.ancestors.contains target then
    if (s.ended.lookup target).any (· ≤ p.clock) then return false
    if signal != 0 then post (delivery target)
    return true
  else
    match s.tasks.find? (·.number == target) with
    | some t => sendToTask t (delivery target)
    | none => return false

/-! ### Letting time pass -/

/-- The number of the task that goes on next, among such tasks, and when it does. -/
def nextTask? (isSuch : Task → Bool) : ShellM (Option (Nat × Nat)) := do
  return (← get).tasks.foldl (fun found t =>
    match found, (if isSuch t then t.next? else none) with
    | some (number, time), some other =>
      if other < time then some (t.number, other) else some (number, time)
    | found, none => found
    | none, some time => some (t.number, time)) none

/-- How many steps of tasks are looked at. -/
def stepLimit : Nat := 100000

/-- Looks at such tasks up to a time, if there is one, in the order of time.  The fuel bounds the
    number of steps. -/
def passFrom (step : Nat → ShellM Unit) (limit : Option Nat) (isSuch : Task → Bool) :
    Nat → ShellM Unit
  | 0 => return
  | fuel + 1 => do
    match ← nextTask? isSuch with
    | none => return
    | some (number, time) =>
      if limit.all (time ≤ ·) then
        step number
        passFrom step limit isSuch fuel

/-- Looks at all tasks up to a time. -/
def passUntil (step : Nat → ShellM Unit) (limit : Nat) : ShellM Unit :=
  passFrom step (some limit) (fun _ => true) stepLimit

/-- Looks at the tasks that come from a process to their ends. -/
def passAll (step : Nat → ShellM Unit) (number : Nat) : ShellM Unit :=
  passFrom step none (·.ancestors.contains number) stepLimit

/-- When the last of some tasks ends; none if it is not known that they all do. -/
def lastEnd? (numbers : List Nat) : ShellM (Option Nat) := do
  let ends := ((← get).tasks.filter (numbers.contains ·.number)).map (·.end?)
  return if ends.all (·.isSome) then some ((ends.filterMap id).foldl max 0) else none

/-- Looks at tasks until some of them have ended, or a signal comes.  The fuel bounds the number of
    steps. -/
def passUntilOver (step : Nat → ShellM Unit) (numbers : List Nat) : Nat → ShellM Unit
  | 0 => return
  | fuel + 1 => do
    match ← nextTask? fun _ => true with
    | none => return
    | some (number, time) =>
      let isLate := ((← lastEnd? numbers).getD timeLimit) ≤ time
      let signal ← firstSignal? fun p d => p.minds d.signal && d.time < time
      if !isLate && signal.isNone then
        step number
        passUntilOver step numbers fuel

/-- Waits until tasks have ended, or until a signal comes; gives the signal if that is what
    happened. -/
def await (step : Nat → ShellM Unit) (numbers : List Nat) : ShellM (Option Nat) := do
  passUntilOver step numbers stepLimit
  let limit ← lastEnd? numbers
  let isEarly (p : Process) (d : Delivery) : Bool := p.minds d.signal && limit.all (d.time < ·)
  let signal ← match ← firstSignal? isEarly, limit with
    | some d, _ => do
      advance d.time
      pure (some d.signal)
    | none, some time => do
      advance (time + noticeTime)
      pure none
    | none, none => throw .endless
  update fun p => { p with lastWait := p.clock }
  return signal

/-! ### Jobs -/

/-- The least number from a given one on that is no job's.  The fuel bounds how many are tried. -/
def freeSlot (jobs : List Job) (slot : Nat) : Nat → Nat
  | 0 => slot
  | fuel + 1 => if jobs.any (·.slot == slot) then freeSlot jobs (slot + 1) fuel else slot

/-- Makes a job of a task that begins. -/
def addJob (number : Nat) : ShellM Unit := update fun p =>
  { p with
    jobs := ⟨number, freeSlot p.jobs 1 p.jobs.length, false⟩ :: p.jobs
    lastJob := some number }

/-- Forgets the oldest job of which the status is known, as another process begins. -/
def forgetJob : ShellM Unit := update fun p =>
  { p with jobs := (p.jobs.reverse.eraseP (·.isKnown)).reverse }

/-- Takes notice of the status of jobs. -/
def learnJobs (isSuch : Job → Bool) : ShellM Unit := update fun p =>
  { p with jobs := p.jobs.map fun job => if isSuch job then { job with isKnown := true } else job }

/-- The job that an argument names: by the number of its process, or by its own after a percent
    sign. -/
def job? (argument : Text) : ShellM (Option Job) := do
  let p ← process
  match argument with
  | '%' :: slot => return p.jobs.find? fun job => number? slot == some job.slot
  | argument => return p.jobs.find? fun job => number? argument == some job.number

/-- The task of a job. -/
def taskOf? (job : Job) : ShellM (Option Task) := do
  return (← get).tasks.find? (·.number == job.number)

/-- The words for the state of a job, and whether that is its last one. -/
def jobWords (task : Option Task) (now : Nat) : Text × Bool :=
  match task.map Task.stage with
  | some (.over ending time) =>
    if now < time then ("Running".toList, false)
    else
      match ending with
      | .exited 0 => ("Done".toList, true)
      | .exited status => ("Done(".toList ++ decimal status ++ [')'], true)
      | .killed signal => ((signalWords signal).toList, true)
  | _ => ("Running".toList, false)

end ShellM

end DiagnosticBridge.Shell
