import TaskAutomation.Number.Word
import TaskAutomation.Text.Split

/-!
This file names the commands of the program and what may be given to each of them. Settings stand
behind a name of their own, in any order; operands stand for themselves, and all of them have to be
given.
-/

namespace TaskAutomation.CommandLine

/-! ### Settings -/

/-- What may be set. -/
inductive Setting where
  | config
  | rules
  | priority
  | topic
  | collisionSign
  | delaySeconds
  deriving DecidableEq, Repr

namespace Setting

/-- The name behind two dashes. -/
def name : Setting → String
  | config => "config"
  | rules => "rules"
  | priority => "priority"
  | topic => "topic"
  | collisionSign => "collision-sign"
  | delaySeconds => "delay-secs"

/-- The letter behind one dash. -/
def letter? : Setting → Option Char
  | config => some 'c'
  | _ => none

/-- The word that stands for the value on help pages. -/
def placeholder : Setting → String
  | config => "CONFIG"
  | rules => "RULES"
  | priority => "PRIORITY"
  | topic => "TOPIC"
  | collisionSign => "COLLISION_SIGN"
  | delaySeconds => "DELAY_SECS"

/-- What help pages say. -/
def about : Setting → String
  | config => "Path to the TOML configuration file"
  | rules => "JSON file with trigger definitions"
  | priority => "[default: 0]"
  | topic | collisionSign | delaySeconds => ""

/-- Reads a priority, a number in 32 bits with a sign. -/
def readPriority? (text : String) : Option Int := do
  let value ← Text.integer? text.toList
  guard (Word.holds32 value)
  some value

/-- Reads a delay, a number in 64 bits without a sign. -/
def readDelay? (text : String) : Option Nat := do
  let value ← Text.natural? text.toList
  guard (value < Word.size64)
  some value

/-- The text is a value. The path of a file is never empty. -/
def accepts : Setting → String → Bool
  | config, text | rules, text => !text.isEmpty
  | priority, text => (readPriority? text).isSome
  | delaySeconds, text => (readDelay? text).isSome
  | topic, _ | collisionSign, _ => true

end Setting

/-! ### Commands -/

/-- The commands of the program. -/
inductive Command where
  /-- Works off tasks. -/
  | run
  /-- Queues a task. -/
  | push
  /-- Counts tasks. -/
  | status
  deriving DecidableEq, Repr

namespace Command

def all : List Command := [run, push, status]

def name : Command → String
  | run => "run"
  | push => "push"
  | status => "status"

def ofName? (name : String) : Option Command := all.find? fun command => command.name == name

/-- What help pages say. -/
def about : Command → String
  | run => "Run workers, the reaper and the schedule tick until Ctrl-C"
  | push => "Enqueue one task in the durable store"
  | status => "Print task counts by status"

/-- What may be set. -/
def settings : Command → List Setting
  | run => [.config, .rules]
  | push => [.config, .priority, .topic, .collisionSign, .delaySeconds]
  | status => [.config]

/-- The operands, each with what help pages say about it. -/
def operands : Command → List (String × String)
  | push => [("HANDLER", ""), ("PARAMS", "Params as a JSON document")]
  | run | status => []

end Command

/-- The name of the program. -/
def programName : String := "spindle"

/-- The version of the program. -/
def version : String := "0.1.0"

end TaskAutomation.CommandLine
