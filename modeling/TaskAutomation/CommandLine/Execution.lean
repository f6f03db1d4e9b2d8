import TaskAutomation.CommandLine.Host
import TaskAutomation.CommandLine.Push
import TaskAutomation.Config.Document
import TaskAutomation.Engine.Assembly
import TaskAutomation.Engine.Simulated

/-!
This file carries out what the arguments of the program ask for. First the settings are read, then
the database is opened, and only then the command itself is looked at. The program either ends with
a report, or its engine has been started and works until it is told to stop.
-/

namespace TaskAutomation.CommandLine

/-- An engine at work. -/
structure Service where
  engine : Engine
  world : World Logging
  /-- The path of the database; without one tasks are kept in memory. -/
  path : Option String

/-- How the program goes on. -/
inductive Course where
  | ended (report : Report)
  | serving (service : Service)

/-! ### The start of the engine -/

namespace Service

/-- Does work in the world of the engine before it starts. -/
def prepare {Fault α : Type} (complain : Fault → Complaint) (work : Work Fault α)
    (world : World Logging) : Except Stop (World Logging) :=
  match world.perform work.run with
  | (some (.ok _), world) => .ok world
  | (some (.error fault), _) => .error (.complaint (complain fault))
  | (none, _) => .error .panic

/-- Makes the triggers of the rules and queues the watcher of the clock. -/
def start (config : Config) (rules : List TriggerRule) (world : World Logging) :
    Except Stop Service := do
  let engine ← (Engine.ofConfig Zone.ofName? config).mapError fun fault =>
    .complaint (.plain fault.message)
  let world ← prepare (fun fault : InstallFault => ⟨fault.part, some fault.cause.message⟩)
    (engine.service.install rules) world
  let world ← prepare (fun fault : StoreFault => .plain fault.message) engine.tick.seed world
  .ok ⟨engine, world, config.storage.path⟩

/-- The world of an engine before it starts. -/
def worldAt (now : Instant) (draws : Nat → Nat) (backend : Backend) : World Logging :=
  World.start now backend draws ⟨fun _ n => Ulid.ofParts now.millis.toNat (draws n), fun _ => 0⟩ ⟨⟩

end Service

/-! ### Commands -/

namespace Host

variable {m : Type → Type} [Monad m]

/-- The settings in a file, or the default ones. -/
def loadConfig (host : Host m) : Option String → ExceptT Stop m Config
  | none => return .default
  | some path => do
    match ← host.readText path with
    | .error why =>
      throw (.complaint ⟨"failed to read config " ++ path ++ ": " ++ why, some why⟩)
    | .ok text =>
      match Config.read text with
      | .ok config => return config
      | .error fault => throw (.complaint (.plain fault.message))

/-- The rules in a file, or none. -/
def loadRules (host : Host m) : Option String → ExceptT Stop m (List TriggerRule)
  | none => return []
  | some path => do
    match ← host.readText path with
    | .error why => throw (.complaint ⟨"failed to read rules " ++ path, some why⟩)
    | .ok text =>
      match RuleFile.read text with
      | .ok rules => return rules
      | .error why => throw (.complaint ⟨"invalid rules " ++ path, some why⟩)

/-- The table in the database of a path. -/
def openAt (host : Host m) (path : String) : ExceptT Stop m TableQueue := do
  match ← host.openTable path with
  | .ok table =>
    host.saveTable path table
    return table
  | .error why =>
    throw (.complaint ⟨"failed to open " ++ path, some (StoreFault.backend why).message⟩)

/-- The table in the database, and its path. -/
def openStore (host : Host m) (config : StorageConfig) : ExceptT Stop m (String × TableQueue) := do
  match config.path with
  | none =>
    throw (.complaint
      (.plain "storage.path is not configured; push/status need the durable store"))
  | some path => return (path, ← host.openAt path)

/-- Queues a task. -/
def push (host : Host m) (config : Config) (arguments : PushArguments) : ExceptT Stop m String := do
  let (path, table) ← host.openStore config.storage
  let now ← host.time
  let draws ← host.draws
  let id : TaskId := ⟨(IdSource.fresh.issue now (draws 0)).1⟩
  let (pushed, table) := arguments.push config.automate now id table
  host.saveTable path table
  return pushedLine (← ExceptT.mk (return pushed))

/-- Counts tasks. -/
def status (host : Host m) (config : Config) : ExceptT Stop m String := do
  let (_, table) ← host.openStore config.storage
  match table.counts with
  | .ok counts => return countsPage counts
  | .error fault => throw (.complaint (.plain fault.message))

/-- Starts the engine. -/
def serve (host : Host m) (config : Config) (rules : Option String) : ExceptT Stop m Service := do
  let backend ←
    match config.storage.path with
    | some path => Backend.table <$> host.openAt path
    | none => pure (.memory .empty)
  let rules ← host.loadRules rules
  let world := Service.worldAt (← host.time) (← host.draws) backend
  ExceptT.mk (return Service.start config rules world)

/-- Carries out an order. -/
def carryOut (host : Host m) (invocation : Invocation) : ExceptT Stop m Course := do
  let config ← host.loadConfig invocation.config
  match invocation.order with
  | .run rules => return .serving (← host.serve config rules)
  | .push arguments => return .ended (.success (← host.push config arguments))
  | .status => return .ended (.success (← host.status config))

/-- Carries out what the arguments ask for. -/
def execute (host : Host m) (arguments : List String) : m Course :=
  match Reading.read arguments with
  | .help page => return .ended (.success page.text)
  | .version => return .ended (.success (programName ++ " " ++ version ++ "\n"))
  | .refused => return .ended .refused
  | .accepted invocation => do
    match ← (host.carryOut invocation).run with
    | .ok course => return course
    | .error stop => return .ended (.ofStop stop)

end Host

end TaskAutomation.CommandLine
