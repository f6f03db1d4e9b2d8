import TaskAutomation.Id.Basic
import TaskAutomation.Queue.Table

/-!
This file says what the program needs from the machine on which it runs.
-/

namespace TaskAutomation.CommandLine

/-- A machine, as far as the program knows it. A fault is told by its message. -/
structure Host (m : Type → Type) where
  /-- The text in a file. -/
  readText : String → m (Except String String)
  /-- The table in a database, which is made if there is none. -/
  openTable : String → m (Except String TableQueue)
  /-- Puts a table back into its database. -/
  saveTable : String → TableQueue → m Unit
  /-- The time. -/
  time : m Instant
  /-- A supply of random bits. -/
  draws : m (Nat → Nat)

end TaskAutomation.CommandLine
