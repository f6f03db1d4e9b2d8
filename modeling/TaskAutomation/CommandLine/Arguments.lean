import TaskAutomation.CommandLine.HelpPage

/-!
This file reads the arguments of the program. They are read from left to right, and the first one
that asks for help or for the version, or that makes no sense, decides. A value stands behind its
name, after a mark of equality or as the argument after it; an argument that begins with a dash is
no value, unless it is a single dash. Behind two dashes everything is an operand.
-/

namespace TaskAutomation.CommandLine

/-! ### What was asked for -/

/-- A task to be queued. -/
structure PushArguments where
  handler : String
  params : String
  priority : Int
  topic : Option String
  collisionSign : Option String
  delaySeconds : Option Nat
  deriving DecidableEq, Repr

/-- A command with all that was given to it. -/
inductive Order where
  | run (rules : Option String)
  | push (arguments : PushArguments)
  | status
  deriving DecidableEq, Repr

/-- An order, and the path of the settings if it was given. -/
structure Invocation where
  config : Option String
  order : Order
  deriving DecidableEq, Repr

/-- What the arguments say. -/
inductive Reading where
  | help (page : HelpPage)
  | version
  | refused
  | accepted (invocation : Invocation)
  deriving DecidableEq, Repr

/-! ### Single arguments -/

/-- What an argument is by itself. -/
inductive Shape where
  | help
  | version
  /-- A name with its value. -/
  | attached (setting : Setting) (value : String)
  /-- A name whose value is the next argument. -/
  | awaiting (setting : Setting)
  /-- Two dashes. -/
  | separator
  | operand
  | unknown
  deriving DecidableEq, Repr

namespace Shape

/-- An argument behind two dashes. The version is known to the program only, not to its commands. -/
def ofName (settings : List Setting) (versioned : Bool) (text : List Char) : Shape :=
  let find? (name : List Char) := settings.find? fun setting => setting.name.toList = name
  match Text.splitFirst? '=' text with
  | some (name, value) =>
    match find? name with
    | some setting => attached setting (String.ofList value)
    | none => unknown
  | none =>
    match find? text with
    | some setting => awaiting setting
    | none =>
      if text = "help".toList then help
      else if versioned && text = "version".toList then version
      else unknown

/-- An argument behind one dash: a letter and what follows it. -/
def ofLetter (settings : List Setting) (versioned : Bool) (letter : Char) (text : List Char) :
    Shape :=
  match settings.find? fun setting => setting.letter? = some letter with
  | some setting =>
    match text with
    | [] => awaiting setting
    | '=' :: value => attached setting (String.ofList value)
    | value => attached setting (String.ofList value)
  | none =>
    if letter = 'h' then help else if versioned && letter = 'V' then version else unknown

/-- The shape of an argument, where some settings are known. -/
def of (settings : List Setting) (versioned : Bool) (argument : String) : Shape :=
  match argument.toList with
  | ['-', '-'] => separator
  | '-' :: '-' :: name => ofName settings versioned name
  | '-' :: letter :: text => ofLetter settings versioned letter text
  | _ => operand

end Shape

/-- The argument may be the value of the name before it. -/
def isValue (argument : String) : Bool :=
  match argument.toList with
  | '-' :: _ :: _ => false
  | _ => true

/-! ### The arguments of a command -/

/-- The arguments of a command, each value with its name. -/
inductive Item where
  | help
  | given (setting : Setting) (value : String)
  | operand (text : String)
  | fault
  deriving DecidableEq, Repr

/-- Arguments as items. -/
def items (settings : List Setting) : List String → List Item
  | [] => []
  | argument :: rest =>
    match Shape.of settings false argument with
    | .help => .help :: items settings rest
    | .attached setting value => .given setting value :: items settings rest
    | .awaiting setting =>
      match rest with
      | value :: rest =>
        (if isValue value then .given setting value else .fault) :: items settings rest
      | [] => [.fault]
    | .separator => rest.map .operand
    | .operand => .operand argument :: items settings rest
    | .version | .unknown => .fault :: items settings rest

/-- What was given to a command so far. -/
structure Given where
  values : List (Setting × String)
  operands : List String
  deriving DecidableEq, Repr

namespace Given

/-- Takes an item, unless it decides on the arguments at once. Nothing is set twice. -/
def take (command : Command) (given : Given) : Item → Except Reading Given
  | .help => .error (.help (.ofCommand command))
  | .fault => .error .refused
  | .given setting value =>
    if (given.values.lookup setting).isNone && setting.accepts value then
      .ok { given with values := given.values ++ [(setting, value)] }
    else .error .refused
  | .operand text =>
    if given.operands.length < command.operands.length then
      .ok { given with operands := given.operands ++ [text] }
    else .error .refused

/-- The order, if nothing is missing. -/
def order? (command : Command) (given : Given) : Option Order :=
  let value? (setting : Setting) := given.values.lookup setting
  match command, given.operands with
  | .run, [] => some (.run (value? .rules))
  | .status, [] => some .status
  | .push, [handler, params] =>
    some (.push {
      handler, params
      priority := ((value? .priority).bind Setting.readPriority?).getD 0
      topic := value? .topic
      collisionSign := value? .collisionSign
      delaySeconds := (value? .delaySeconds).bind Setting.readDelay? })
  | _, _ => none

end Given

/-! ### All arguments -/

namespace Reading

/-- Reads the arguments of a command. The path of the settings may be given to the program or to the
command, and the latter counts. -/
def ofCommand (config : Option String) (command : Command) (arguments : List String) : Reading :=
  match (items command.settings arguments).foldlM (Given.take command) ⟨[], []⟩ with
  | .error reading => reading
  | .ok given =>
    match given.order? command with
    | some order => accepted ⟨(given.values.lookup .config).orElse fun _ => config, order⟩
    | none => refused

/-- Reads the names behind the command for help pages. -/
def ofHelp : List String → Reading
  | [] => help .ofProgram
  | [name] =>
    match Command.ofName? name with
    | some command => help (.ofCommand command)
    | none => if name = "help" then help .ofHelp else refused
  | _ => refused

/-- Reads a command and its arguments. -/
def ofNamed (config : Option String) (name : String) (arguments : List String) : Reading :=
  if name = "help" then ofHelp arguments
  else
    match Command.ofName? name with
    | some command => ofCommand config command arguments
    | none => refused

/-- The same reading, if it is a help page. -/
def onlyHelp : Reading → Reading
  | help page => help page
  | _ => refused

/-- Reads arguments behind a path of the settings. A path that is refused after its name shows only
once the command behind it was read, so that a help page of the command still comes first. -/
def readFrom (config : Option String) : List String → Reading
  | [] => refused
  | argument :: rest =>
    match Shape.of [.config] true argument with
    | .help => help .ofProgram
    | .version => version
    | .attached setting value =>
      if config.isNone && setting.accepts value then readFrom (some value) rest else refused
    | .awaiting setting =>
      match rest with
      | [] => refused
      | value :: rest =>
        if !isValue value then refused
        else if config.isNone && setting.accepts value then readFrom (some value) rest
        else
          match rest with
          | name :: rest => (ofNamed none name rest).onlyHelp
          | [] => refused
    | .operand => ofNamed config argument rest
    | .separator | .unknown => refused

/-- Reads the arguments of the program. -/
def read (arguments : List String) : Reading := readFrom none arguments

end Reading

end TaskAutomation.CommandLine
