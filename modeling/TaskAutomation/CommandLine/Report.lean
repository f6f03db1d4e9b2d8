/-!
This file defines how the program ends and what it writes then. A complaint is written with its
cause below it, and every line of the cause is indented.
-/

namespace TaskAutomation.CommandLine

/-- Why a command cannot be carried out. -/
structure Complaint where
  head : String
  cause : Option String
  deriving DecidableEq, Repr

namespace Complaint

/-- A complaint without a cause. -/
def plain (head : String) : Complaint := ⟨head, none⟩

/-- Lines with blanks in front of each. -/
def indented (text : String) : String :=
  "    " ++ String.join (text.toList.map fun c => if c = '\n' then "\n    " else c.toString)

/-- The text of a complaint. -/
def text (complaint : Complaint) : String :=
  "Error: " ++ complaint.head ++ "\n" ++
    match complaint.cause with
    | some cause => "\nCaused by:\n" ++ indented cause ++ "\n"
    | none => ""

end Complaint

/-- Why a command ends early. -/
inductive Stop where
  | complaint (complaint : Complaint)
  /-- The program breaks off. -/
  | panic
  deriving DecidableEq, Repr

/-- The end of the program: its exit code, what it has printed, and what it has complained about. -/
structure Report where
  code : Nat
  output : String
  complaints : String
  deriving DecidableEq, Repr

namespace Report

/-- All went well. -/
def success (output : String) : Report := ⟨0, output, ""⟩

/-- The arguments make no sense. -/
def refused : Report :=
  ⟨2, "", "error: the arguments make no sense\n\nFor more information, try '--help'.\n"⟩

/-- The command ended early. -/
def ofStop : Stop → Report
  | .complaint complaint => ⟨1, "", complaint.text⟩
  | .panic => ⟨101, "", "the program broke off\n"⟩

end Report

end TaskAutomation.CommandLine
