import TaskAutomation.CommandLine.Directory
import TaskAutomation.CommandLine.Execution
import TaskAutomation.Proofs.Results
import TaskAutomation.Proofs.Time.Ages
import Mathlib.Order.Basic

/-!
This file proves what comes of the delay that a command gives to a new task. A delay passes three
limits on its way to a start time: it has to be a number of 64 bits with a sign, then a span, and
then the time after it has to be there. The program complains at the first two limits and breaks off
at the third one, so it breaks off exactly if the delay is a span that leads beyond the end of time.
Nothing is stored then. Every other delay leads to a complaint, with nothing stored, or to one new
task that starts the delay after the time on the clock.
-/

namespace TaskAutomation

/-! ### Times after a delay -/

namespace Instant

/-- The time that is a number of whole seconds after another one. A leap second ends with the first
of them. -/
def after (instant : Instant) (seconds : Nat) : Instant :=
  ⟨instant.seconds + seconds,
    if seconds = 0 then instant.nanos else instant.nanos % nanosPerSecond⟩

variable {instant : Instant}

/-- Whole seconds can be added as long as the calendar goes on. -/
theorem add?_forwardSeconds (representable : instant.Representable) (seconds : Nat) :
    instant.add? ⟨seconds * nanosPerSecond⟩ =
      if maxSeconds < instant.seconds + seconds then none else some (instant.after seconds) := by
  obtain ⟨least, most, nanos⟩ := representable
  rw [le_iff] at least most
  have forward : ¬ (instant.isLeap = true ∧ (seconds : Int) < 0) := by omega
  have range : inRange (instant.seconds + seconds) = true ↔
      ¬ maxSeconds < instant.seconds + seconds := by
    simp only [inRange, min, Bool.and_eq_true, decide_eq_true_eq] at least ⊢
    omega
  rw [add?_wholeSeconds nanos, if_neg forward, Int.add_zero]
  by_cases beyond : maxSeconds < instant.seconds + seconds
  · have moves : ¬ (instant.isLeap = true ∧ (seconds : Int) = 0) := by
      simp only [max] at most
      omega
    rw [if_neg moves, if_pos beyond, if_neg (fun inside => range.mp inside beyond)]
  · rw [if_neg beyond, if_pos (range.mpr beyond), after]
    by_cases leap : instant.isLeap = true
    · have rest : instant.nanos % nanosPerSecond = instant.nanos - nanosPerSecond := by
        rw [isLeap_iff] at leap
        rw [Nat.mod_eq_sub_mod leap, Nat.mod_eq_of_lt (by omega)]
      by_cases still : seconds = 0
      · simp [leap, still]
      · simp [leap, still, rest]
    · have rest : instant.nanos % nanosPerSecond = instant.nanos := by
        rw [isLeap_iff] at leap
        exact Nat.mod_eq_of_lt (Nat.not_le.mp leap)
      simp [leap, rest]

/-- Outside of a leap second the milliseconds go on by those of the delay. -/
theorem millis_after (ordinary : instant.nanos < nanosPerSecond) (seconds : Nat) :
    (instant.after seconds).millis = instant.millis + 1000 * seconds := by
  have nanos : (instant.after seconds).nanos = instant.nanos := by
    show (if seconds = 0 then instant.nanos else instant.nanos % nanosPerSecond) = _
    rw [Nat.mod_eq_of_lt ordinary, ite_self]
  rw [millis, nanos]
  show (instant.seconds + seconds) * 1000 + _ = instant.seconds * 1000 + _ + _
  omega

end Instant

/-! ### New rows -/

/-- What a push has made of a new task. -/
inductive Pushed.IsOf (task : Task) : Pushed → Prop
  | queued : IsOf task (.queued task)
  | collided (existing : TaskId) : IsOf task (.collided (task.collide existing) existing)

namespace TableQueue

variable {table changed : TableQueue} {task : Task} {pushed : Pushed}

theorem insert_eq_ok {row : Row} (inserted : table.insert row = .ok changed) :
    conflict? table.rows row = none ∧ changed = ⟨table.rows ++ [row]⟩ := by
  unfold insert at inserted
  split at inserted
  · cases inserted
  · next free =>
    cases inserted
    exact ⟨free, rfl⟩

theorem pushCollision_eq_ok {sign : String}
    (kept : table.pushCollision task sign = .ok (pushed, changed)) :
    ∃ existing, pushed = .collided (task.collide existing) existing ∧
      changed = ⟨table.rows ++ [Row.ofTask (task.collide existing)]⟩ := by
  obtain ⟨holder, -, kept⟩ := bind_eq_ok.mp kept
  cases holder with
  | none => cases kept
  | some existing =>
    simp only at kept
    split at kept
    · next after inserted =>
      cases kept
      exact ⟨existing, rfl, (insert_eq_ok inserted).2⟩
    · cases kept

/-- A push adds one row for the new task, or it is refused because the row breaks a constraint, and
then it adds nothing. -/
theorem push_adds (table : TableQueue) (id : TaskId) (now : Instant) (handler : String)
    (params : Json) (options : PushOptions) :
    (∃ pushed, table.push id now handler params options =
        (.ok pushed, ⟨table.rows ++ [Row.ofTask pushed.task]⟩) ∧
      pushed.IsOf (Task.new id handler params options now)) ∨
    ∃ fault, table.push id now handler params options = (.error fault, table) ∧
      ∃ why, conflict? table.rows (Row.ofTask (Task.new id handler params options now)) =
        some why := by
  unfold push
  generalize Task.new id handler params options now = task
  cases inserted : table.insert (Row.ofTask task) with
  | ok changed =>
    obtain ⟨-, rfl⟩ := insert_eq_ok inserted
    exact Or.inl ⟨.queued task, by simp only [inserted, Pushed.task], .queued⟩
  | error why =>
    have conflict : ∃ why, conflict? table.rows (Row.ofTask task) = some why := by
      unfold insert at inserted
      split at inserted
      · next why broken => exact ⟨why, broken⟩
      · cases inserted
    cases signed : task.collisionSign with
    | none => exact Or.inr ⟨.backend why, by simp only [inserted, signed], conflict⟩
    | some sign =>
      cases kept : table.pushCollision task sign with
      | error fault => exact Or.inr ⟨fault, by simp only [inserted, signed, kept], conflict⟩
      | ok outcome =>
        obtain ⟨existing, own, changed⟩ := pushCollision_eq_ok kept
        refine Or.inl ⟨.collided (task.collide existing) existing, ?_, .collided existing⟩
        simp only [inserted, signed, kept, own, changed, Pushed.task]

end TableQueue

namespace CommandLine

/-! ### Databases -/

namespace Directory

variable {directory : Directory} {path : String} {first second table : TableQueue}

/-- Of two tables that are put into one database the later one stays. -/
theorem saveTable_saveTable (directory : Directory) (path : String) (first second : TableQueue) :
    (directory.saveTable path first).saveTable path second = directory.saveTable path second := by
  unfold saveTable
  split
  · rfl
  · simp [List.filter_filter]

/-- A database that could be opened holds the table that was put into it, unless it is gone with the
command. -/
theorem openTable_saveTable (opens : directory.openTable path = .ok first)
    (lasting : isPrivate path = false) :
    (directory.saveTable path second).openTable path = .ok second := by
  cases allowed : isForeign path || isFolderPath path with
  | true => simp [openTable, lasting, allowed] at opens
  | false => simp [openTable, saveTable, lasting, allowed]

end Directory

/-! ### Work on a machine -/

namespace Machine

variable {machine after : Machine} {file text path : String} {config : Config} {table : TableQueue}

/-- Work goes on with what the work before it has come to. -/
theorem run_bind {α β : Type} {work : ExceptT Stop (StateM Machine) α}
    {next : α → ExceptT Stop (StateM Machine) β} {a : α}
    (ran : work.run.run machine = (.ok a, after)) :
    (work >>= next).run.run machine = (next a).run.run after := by
  rw [ExceptT.run_bind, StateT.run_bind, ran]
  rfl

theorem run_lift {α : Type} (work : StateM Machine α) (machine : Machine) :
    (liftM work : ExceptT Stop (StateM Machine) α).run.run machine =
      (.ok (work.run machine).1, (work.run machine).2) := rfl

theorem run_time (machine : Machine) : host.time.run machine = (machine.clock, machine) := rfl

theorem run_draws (machine : Machine) :
    host.draws.run machine =
      (fun n => machine.draws (machine.supplies + n),
        { machine with supplies := machine.supplies + 1 }) := rfl

theorem run_saveTable (path : String) (table : TableQueue) (machine : Machine) :
    (host.saveTable path table).run machine =
      ((), { machine with directory := machine.directory.saveTable path table }) := rfl

theorem run_loadConfig (readable : machine.directory.readText file = .ok text)
    (understood : Config.read text = .ok config) :
    (host.loadConfig (some file)).run.run machine = (.ok config, machine) := by
  unfold Host.loadConfig
  have read : (liftM (host.readText file) : ExceptT Stop (StateM Machine) _).run.run machine =
      (.ok (.ok text), machine) := by
    rw [run_lift]
    exact congrArg (fun reply => (Except.ok reply, machine)) readable
  refine (run_bind read).trans ?_
  simp only [understood]
  rfl

theorem run_openStore (durable : config.storage.path = some path)
    (opens : machine.directory.openTable path = .ok table) :
    (host.openStore config.storage).run.run machine =
      (.ok (path, table),
        { machine with directory := machine.directory.saveTable path table }) := by
  have opened : (host.openAt path).run.run machine =
      (.ok table, { machine with directory := machine.directory.saveTable path table }) := by
    unfold Host.openAt
    have found : (liftM (host.openTable path) : ExceptT Stop (StateM Machine) _).run.run machine =
        (.ok (.ok table), machine) := by
      rw [run_lift]
      exact congrArg (fun reply => (Except.ok reply, machine)) opens
    exact run_bind found
  unfold Host.openStore
  simp only [durable]
  exact run_bind opened

/-- The identifier that the next task gets on the machine. -/
def taskId (machine : Machine) : TaskId :=
  ⟨(IdSource.fresh.issue machine.clock (machine.draws machine.supplies)).1⟩

/-- A command to queue a task puts the table that the task was pushed to into the database. -/
theorem run_push (durable : config.storage.path = some path)
    (opens : machine.directory.openTable path = .ok table) (order : PushArguments)
    {pushed : Except Stop Pushed} {left : TableQueue}
    (told : order.push config.automate machine.clock machine.taskId table = (pushed, left)) :
    (host.push config order).run.run machine =
      (pushed.map pushedLine,
        { machine with
          directory := machine.directory.saveTable path left
          supplies := machine.supplies + 1 }) := by
  have known : order.push config.automate machine.clock
      ⟨(IdSource.fresh.issue machine.clock (machine.draws (machine.supplies + 0))).1⟩ table =
        (pushed, left) := told
  unfold Host.push
  refine (run_bind (run_openStore durable opens)).trans ?_
  refine (run_bind (run_lift _ _)).trans ?_
  refine (run_bind (run_lift _ _)).trans ?_
  simp only [run_time, run_draws, known]
  refine (run_bind (run_lift _ _)).trans ?_
  rw [run_saveTable, Directory.saveTable_saveTable]
  cases pushed <;> rfl

end Machine

/-! ### Delays -/

namespace PushArguments

variable {arguments : PushArguments} {delay : Nat} {now : Instant}

/-- The longest delay that is a span, in seconds. -/
def longestDelay : Nat := 9223372036854775

/-- How a command ends whose delay leads beyond the end of time. -/
def refusal (delay : Nat) : Stop :=
  if Word.most64 < delay then
    .complaint (.plain "out of range integral type conversion attempted")
  else if longestDelay < delay then .complaint (.plain "delay out of range")
  else .panic

theorem code_refusal (delay : Nat) :
    (Report.ofStop (refusal delay)).code = if longestDelay < delay then 1 else 101 := by
  unfold refusal
  by_cases unsigned : Word.most64 < delay
  · have long : longestDelay < delay := by
      simp only [Word.most64, longestDelay] at unsigned ⊢
      omega
    rw [if_pos unsigned, if_pos long]
    rfl
  · rw [if_neg unsigned]
    split <;> rfl

theorem code_refusal_eq_panic (delay : Nat) :
    (Report.ofStop (refusal delay)).code = 101 ↔ delay ≤ longestDelay := by
  rw [code_refusal, ← Nat.not_lt]
  split <;> simp_all

theorem code_refusal_eq_or (delay : Nat) :
    (Report.ofStop (refusal delay)).code = 1 ∨ (Report.ofStop (refusal delay)).code = 101 := by
  rw [code_refusal]
  split
  · exact Or.inl rfl
  · exact Or.inr rfl

theorem startAt_eq (delayed : arguments.delaySeconds = some delay)
    (representable : now.Representable) :
    arguments.startAt now =
      if Instant.maxSeconds < now.seconds + delay then .error (refusal delay)
      else .ok (some (now.after delay)) := by
  have least := (Instant.le_iff _ _).mp representable.least
  simp only [Instant.min] at least
  -- Whatever the time on the clock is, a delay beyond the first two limits is beyond the third one.
  have far : longestDelay < delay → Instant.maxSeconds < now.seconds + delay := by
    simp only [longestDelay, Instant.minSeconds, Instant.maxSeconds] at least ⊢
    omega
  have span : Span.ofSeconds? delay =
      if longestDelay < delay then none else some ⟨delay * nanosPerSecond⟩ := by
    show (if (delay : Int).natAbs ≤ longestDelay then some _ else none) = _
    simp only [Int.natAbs_natCast]
    split <;> split <;> first | rfl | omega
  unfold startAt refusal
  simp only [delayed, span]
  by_cases unsigned : Word.most64 < delay
  · have long : longestDelay < delay := by
      simp only [Word.most64, longestDelay] at unsigned ⊢
      omega
    rw [if_pos (by exact_mod_cast unsigned), if_pos (far long), if_pos unsigned]
  · rw [if_neg (by exact_mod_cast unsigned), if_neg unsigned]
    by_cases long : longestDelay < delay
    · simp only [if_pos long, if_pos (far long)]
    · rw [if_neg long]
      simp only [if_neg long, Instant.add?_forwardSeconds representable]
      by_cases beyond : Instant.maxSeconds < now.seconds + delay
      · simp only [if_pos beyond]
      · simp only [if_neg beyond]

end PushArguments

/-! ### The command -/

/-- A command that queues a task with a delay, on a machine where everything but the delay is in
order: the arguments and the settings are understood, the database opens, the kind of the task is
known, and its params are JSON. -/
structure DelayedPush where
  machine : Machine
  arguments : List String
  order : PushArguments
  /-- The file of the settings, and what it holds. -/
  file : String
  text : String
  config : Config
  /-- The database, and what it holds. -/
  path : String
  table : TableQueue
  kind : TaskKind
  params : Json
  /-- The delay in seconds. -/
  delay : Nat
  accepted : Reading.read arguments = .accepted ⟨some file, .push order⟩
  readable : machine.directory.readText file = .ok text
  understood : Config.read text = .ok config
  durable : config.storage.path = some path
  opens : machine.directory.openTable path = .ok table
  known : TaskKind.ofName? order.handler = some kind
  parsed : Json.parse order.params = .ok params
  delayed : order.delaySeconds = some delay
  representable : machine.clock.Representable

namespace DelayedPush

variable (push : DelayedPush)

/-- What the program does. -/
def run : Course × Machine := (Machine.host.execute push.arguments).run push.machine

/-- The time on the clock. -/
def now : Instant := push.machine.clock

/-- What the command asks of the task. -/
def options : PushOptions where
  priority := push.order.priority
  topic := push.order.topic.getD push.config.automate.topic
  startAt := some (push.now.after push.delay)
  collisionSign := push.order.collisionSign

/-- The task that the command asks for. -/
def task : Task :=
  Task.new push.machine.taskId push.kind.name push.params push.options push.now

/-- The delay leads beyond the end of time. -/
def Endless : Prop := Instant.maxSeconds < push.now.seconds + push.delay

instance : Decidable push.Endless := inferInstanceAs (Decidable (_ < _))

/-- The machine after the command, with the table that was put into the database. -/
def leaving (table : TableQueue) : Machine :=
  { push.machine with
    directory := push.machine.directory.saveTable push.path table
    supplies := push.machine.supplies + 1 }

variable {push}

theorem understand_eq :
    push.order.understand push.config.automate push.now =
      if push.Endless then .error (PushArguments.refusal push.delay)
      else .ok (push.kind, push.params, push.options) := by
  have starts : push.order.startAt push.now = if push.Endless then _ else _ :=
    PushArguments.startAt_eq push.delayed push.representable
  unfold PushArguments.understand PushArguments.options
  simp only [push.known, push.parsed, starts]
  by_cases endless : push.Endless
  · rw [if_pos endless, if_pos endless]
    rfl
  · rw [if_neg endless, if_neg endless]
    rfl

/-- The command pushes nothing if its delay leads beyond the end of time. -/
theorem push_of_endless (endless : push.Endless) :
    push.order.push push.config.automate push.now push.machine.taskId push.table =
      (.error (PushArguments.refusal push.delay), push.table) := by
  unfold PushArguments.push
  rw [understand_eq, if_pos endless]

/-- The command pushes its task if there is a time to start it. -/
theorem push_of_not_endless (fits : ¬ push.Endless) {pushed : Except StoreFault Pushed}
    {left : TableQueue}
    (told : push.table.push push.machine.taskId push.now push.kind.name push.params push.options =
      (pushed, left)) :
    push.order.push push.config.automate push.now push.machine.taskId push.table =
      (pushed.mapError fun fault => .complaint (.plain fault.message), left) := by
  unfold PushArguments.push
  rw [understand_eq, if_neg fits]
  simp only [told]

/-- How the program ends, by what the push comes to. -/
def report : Except Stop Pushed → Report
  | .ok pushed => .success (pushedLine pushed)
  | .error stop => .ofStop stop

/-- The program ends with what comes of the push to the table of the database. -/
theorem run_eq {pushed : Except Stop Pushed} {left : TableQueue}
    (told : push.order.push push.config.automate push.now push.machine.taskId push.table =
      (pushed, left)) :
    push.run = (.ended (report pushed), push.leaving left) := by
  have pushes : (Machine.host.push push.config push.order).run.run push.machine =
      (pushed.map pushedLine, push.leaving left) :=
    Machine.run_push push.durable push.opens push.order told
  have carried : (Machine.host.carryOut ⟨some push.file, .push push.order⟩).run.run push.machine =
      (pushed.map fun pushed => .ended (.success (pushedLine pushed)), push.leaving left) := by
    unfold Host.carryOut
    refine (Machine.run_bind
      (Machine.run_loadConfig push.readable push.understood)).trans ?_
    show ((Machine.host.push push.config push.order >>= _).run.run push.machine) = _
    rw [ExceptT.run_bind, StateT.run_bind, pushes]
    cases pushed <;> rfl
  unfold run Host.execute
  rw [push.accepted]
  simp only [StateT.run_bind, carried]
  cases pushed <;> rfl

/-- A command breaks off exactly if its delay is a span that leads beyond the end of time. Then, and
whenever it complains, nothing is stored. Otherwise one task is stored, which starts the delay after
the time on the clock, and that is so whenever there is such a time and the row of the task breaks
no constraint. -/
theorem delays (push : DelayedPush) :
    ∃ report left, push.run = (.ended report, push.leaving left) ∧
      (Directory.isPrivate push.path = false →
        (push.leaving left).directory.openTable push.path = .ok left) ∧
      (report.code = 101 ↔ push.Endless ∧ push.delay ≤ PushArguments.longestDelay) ∧
      (report.code ≠ 0 → left = push.table ∧ (report.code = 1 ∨ report.code = 101)) ∧
      (report.code = 0 → ¬ push.Endless ∧ ∃ task,
        left = ⟨push.table.rows ++ [Row.ofTask task]⟩ ∧
        (task = push.task ∨ ∃ existing, task = push.task.collide existing) ∧
        (Row.ofTask task).startAt = .integer (push.now.after push.delay).millis) ∧
      (¬ push.Endless → TableQueue.conflict? push.table.rows (Row.ofTask push.task) = none →
        report.code = 0) ∧
      (push.now.nanos < nanosPerSecond →
        (push.now.after push.delay).millis = push.now.millis + 1000 * push.delay) := by
  have reopens (left : TableQueue) (lasting : Directory.isPrivate push.path = false) :
      (push.leaving left).directory.openTable push.path = .ok left :=
    Directory.openTable_saveTable push.opens lasting
  have starts (ordinary : push.now.nanos < nanosPerSecond) :=
    Instant.millis_after ordinary push.delay
  by_cases endless : push.Endless
  · have panics := PushArguments.code_refusal_eq_panic push.delay
    have code := PushArguments.code_refusal_eq_or push.delay
    refine ⟨_, _, run_eq (push_of_endless endless), reopens _, ?_, fun _ => ⟨rfl, code⟩,
      fun zero => ?_, fun fits => absurd endless fits, starts⟩
    · exact panics.trans (and_iff_right endless).symm
    · obtain one | panic := code
      · cases zero.symm.trans one
      · cases zero.symm.trans panic
  · obtain ⟨pushed, told, own⟩ | ⟨fault, told, conflict⟩ :=
      push.table.push_adds push.machine.taskId push.now push.kind.name push.params push.options
    · refine ⟨_, _, run_eq (push_of_not_endless endless told), reopens _, ?_, ?_, ?_, ?_, starts⟩
      · exact ⟨fun code => (by cases code), fun broken => absurd broken.1 endless⟩
      · exact fun failed => absurd rfl failed
      · refine fun _ => ⟨endless, pushed.task, rfl, ?_, ?_⟩
        · cases own with
          | queued => exact Or.inl rfl
          | collided existing => exact Or.inr ⟨existing, rfl⟩
        · cases own <;> rfl
      · exact fun _ _ => rfl
    · refine ⟨_, _, run_eq (push_of_not_endless endless told), reopens _, ?_, ?_, ?_, ?_, starts⟩
      · exact ⟨fun code => (by cases code), fun broken => absurd broken.1 endless⟩
      · exact fun _ => ⟨rfl, Or.inl rfl⟩
      · exact fun code => (by cases code)
      · intro _ free
        obtain ⟨why, broken⟩ := conflict
        cases broken.symm.trans free

/-! ### Two delays -/

/-- A machine with nothing but a file of settings. -/
def newMachine : Machine where
  directory := .ofTexts [("c.toml", "[storage]\npath = \"t.db\"\n")]
  clock := ⟨1700000000, 0⟩
  draws _ := 0
  supplies := 0

/-- The settings in that file. -/
def newConfig : Config := { Config.default with storage := ⟨some "t.db"⟩ }

/-- The arguments of a command to queue a round of the clock. -/
def tickArguments (delay : String) : List String :=
  ["--config", "c.toml", "push", "automateScheduleTick", "\x7b\x7d", "--delay-secs", delay]

/-- What these arguments ask for. -/
def tickOrder (delay : Nat) : PushArguments where
  handler := "automateScheduleTick"
  params := "\x7b\x7d"
  priority := 0
  topic := none
  collisionSign := none
  delaySeconds := some delay

/-- A command to queue a round of the clock on a new machine. -/
def tickPush (text : String) (delay : Nat)
    (accepted : Reading.read (tickArguments text) =
      .accepted ⟨some "c.toml", .push (tickOrder delay)⟩) : DelayedPush where
  machine := newMachine
  arguments := tickArguments text
  order := tickOrder delay
  file := "c.toml"
  text := "[storage]\npath = \"t.db\"\n"
  config := newConfig
  path := "t.db"
  table := .empty
  kind := .scheduleTick
  params := .record []
  delay := delay
  accepted := accepted
  readable := by decide +kernel
  understood := by decide +kernel
  durable := rfl
  opens := by decide +kernel
  known := (by decide +kernel : TaskKind.ofName? "automateScheduleTick" = some .scheduleTick)
  parsed := (by with_unfolding_all rfl : Json.parse "\x7b\x7d" = .ok (.record []))
  delayed := rfl
  representable := by decide +kernel

/-- A delay of a minute. -/
def nearPush : DelayedPush := tickPush "60" 60 (by decide +kernel)

/-- A delay that is a span, though no calendar goes on for so long. -/
def farPush : DelayedPush := tickPush "9000000000000" 9000000000000 (by decide +kernel)

theorem delays_near :
    ∃ report left, nearPush.run = (.ended report, nearPush.leaving left) ∧ report.code = 0 ∧
      ∃ task, left.rows = [Row.ofTask task] ∧
        (Row.ofTask task).startAt = .integer (nearPush.now.millis + 60000) := by
  obtain ⟨report, left, run, -, -, -, stored, stores, starts⟩ := delays nearPush
  have code : report.code = 0 := stores (by decide +kernel) rfl
  obtain ⟨-, task, rfl, -, start⟩ := stored code
  exact ⟨report, _, run, code, task, rfl, start.trans (congrArg _ (starts (by decide)))⟩

/-- The delay is a number of 64 bits and a span, and the program breaks off. -/
theorem breaks_off_far :
    farPush.delay < Word.size64 ∧
      farPush.run = (.ended (.ofStop .panic), farPush.leaving farPush.table) := by
  have endless : farPush.Endless := by decide +kernel
  have refused : PushArguments.refusal farPush.delay = .panic := by decide +kernel
  refine ⟨by decide, ?_⟩
  rw [run_eq (push_of_endless endless), refused]
  rfl

end DelayedPush

end CommandLine

end TaskAutomation
