import TaskAutomation.CommandLine.Command

/-!
This file defines the help pages of the program. A page tells what something is about and how it is
used, and then lists things in sections of two columns. The second column of a section starts two
blanks behind the longest entry of the first.
-/

namespace TaskAutomation.CommandLine

/-- A help page. -/
structure HelpPage where
  about : String
  usage : String
  sections : List (String × List (String × String))
  deriving DecidableEq, Repr

namespace HelpPage

/-! ### Layout -/

/-- The width of the first column. -/
def width (entries : List (String × String)) : Nat :=
  (entries.map fun entry => entry.1.length).foldl max 0

/-- A line with two columns. -/
def line (width : Nat) (entry : String × String) : String :=
  let padding := String.ofList (List.replicate (width - entry.1.length) ' ')
  "  " ++ entry.1 ++ padding ++ "  " ++ entry.2 ++ "\n"

/-- A section below an empty line. -/
def sectionText (title : String) (entries : List (String × String)) : String :=
  "\n" ++ title ++ ":\n" ++ String.join (entries.map (line (width entries)))

/-- The text of a page. -/
def text (page : HelpPage) : String :=
  page.about ++ "\n\nUsage: " ++ programName ++ " " ++ page.usage ++ "\n" ++
    String.join (page.sections.map fun (title, entries) => sectionText title entries)

/-! ### Pages -/

/-- The entry of a setting. Names stand below each other, whether there is a letter or not. -/
def settingEntry (setting : Setting) : String × String :=
  let letter :=
    match setting.letter? with
    | some letter => "-" ++ letter.toString ++ ", "
    | none => "    "
  (letter ++ "--" ++ setting.name ++ " <" ++ setting.placeholder ++ ">", setting.about)

/-- The entry of the way to help pages. -/
def helpEntry : String × String := ("-h, --help", "Print help")

/-- The entry of the way to the version. -/
def versionEntry : String × String := ("-V, --version", "Print version")

/-- What is said about the command for help pages. -/
def helpAbout : String := "Print this message or the help of the given subcommand(s)"

/-- The page of the program. -/
def ofProgram : HelpPage where
  about := "Durable task queue and automation rule runner"
  usage := "[OPTIONS] <COMMAND>"
  sections := [
    ("Commands",
      Command.all.map (fun command => (command.name, command.about)) ++ [("help", helpAbout)]),
    ("Options", [settingEntry .config, helpEntry, versionEntry])]

/-- The page of a command. -/
def ofCommand (command : Command) : HelpPage where
  about := command.about
  usage :=
    " ".intercalate (command.name :: "[OPTIONS]" ::
      command.operands.map fun operand => "<" ++ operand.1 ++ ">")
  sections :=
    let options := ("Options", command.settings.map settingEntry ++ [helpEntry])
    match command.operands.map fun operand => ("<" ++ operand.1 ++ ">", operand.2) with
    | [] => [options]
    | operands => [("Arguments", operands), options]

/-- The page of the command for help pages. -/
def ofHelp : HelpPage where
  about := helpAbout
  usage := "help [COMMAND]..."
  sections := [("Arguments", [("[COMMAND]...", "Print help for the subcommand(s)")])]

end HelpPage

end TaskAutomation.CommandLine
