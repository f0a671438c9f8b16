import StorageInventory.Text.Basic

/-!
# Arguments

The first argument names a command; the others are its options, in any order.  An option that takes
a value has it behind an equals sign or as the next argument, whatever that looks like; of an option
given twice the last value holds.  Flags of one letter may share a dash.  Two dashes end the
options, and nothing may follow them but, before a command, the command itself.
-/

namespace StorageInventory.CommandLine

/-- What the program can be asked for. -/
inductive Command where
  | disks
  | filesystems
  | inventory
  deriving DecidableEq, Repr

/-- The command of a name. -/
def Command.ofName? (name : Text) : Option Command :=
  match String.ofList name with
  | "disks" => some .disks
  | "filesystems" => some .filesystems
  | "inventory" => some .inventory
  | _ => none

/-- What can be set for a command. -/
structure Options where
  /-- The configuration file. -/
  config : Option Text := none
  /-- The directory of captured outputs. -/
  capture : Option Text := none
  /-- Show the counts of the collection. -/
  withDiagnostics : Bool := false
  /-- Show everything in the log. -/
  isVerbose : Bool := false
  deriving DecidableEq, Repr

/-- A command with its options. -/
structure Invocation where
  command : Command
  options : Options
  deriving DecidableEq, Repr

/-- What an option does: set a flag, or take a value. -/
inductive OptionEffect where
  | flag (set : Options → Options)
  | value (set : Text → Options → Options)

/-- The effect of an option with a long name, if the command has it. -/
def Command.longOption? (command : Command) (name : Text) : Option OptionEffect :=
  match command, String.ofList name with
  | _, "--config" => some (.value fun path o => { o with config := some path })
  | _, "--verbose" => some (.flag fun o => { o with isVerbose := true })
  | .disks, "--capture-dir" | .inventory, "--capture-dir" =>
    some (.value fun path o => { o with capture := some path })
  | .disks, "--diagnostics" => some (.flag fun o => { o with withDiagnostics := true })
  | _, _ => none

/-- What an argument is to a command. -/
inductive ArgumentUse where
  /-- An option with all that belongs to it. -/
  | complete (set : Options → Options)
  /-- An option whose value is the next argument. -/
  | needsValue (set : Text → Options → Options)
  /-- The end of the options. -/
  | ends
  /-- Nothing that the command knows. -/
  | unknown

/-- The name of an option, and the value behind the first equals sign. -/
def splitValue (argument : Text) : Text × Option Text :=
  let name := argument.takeWhile (· ≠ '=')
  match argument.drop name.length with
  | [] => (name, none)
  | _ :: value => (name, some value)

/-- The use of an argument. -/
def Command.use (command : Command) (argument : Text) : ArgumentUse :=
  match argument with
  | ['-', '-'] => .ends
  | '-' :: '-' :: _ =>
    match command.longOption? (splitValue argument).1, (splitValue argument).2 with
    | some (.flag set), none => .complete set
    | some (.value set), some value => .complete (set value)
    | some (.value set), none => .needsValue set
    | _, _ => .unknown
  | '-' :: letter :: letters =>
    if (letter :: letters).all (· = 'v') then .complete fun o => { o with isVerbose := true }
    else .unknown
  | _ => .unknown

/-- Read the options of a command; none if they are misused. -/
def readOptions (command : Command) : Options → List Text → Option Options
  | o, [] => some o
  | o, argument :: rest =>
    match command.use argument with
    | .complete set => readOptions command (set o) rest
    | .needsValue set =>
      match rest with
      | [] => none
      | value :: rest => readOptions command (set value o) rest
    | .ends => if rest = [] then some o else none
    | .unknown => none

/-- Read the arguments after a possible end of options; none if they are misused. -/
def Invocation.ofNamed : List Text → Option Invocation
  | [] => none
  | name :: rest =>
    match Command.ofName? name with
    | none => none
    | some command => (readOptions command {} rest).map fun options => { command, options }

/-- Read the arguments; none if they are misused. -/
def Invocation.ofArguments : List Text → Option Invocation
  | ['-', '-'] :: rest => ofNamed rest
  | arguments => ofNamed arguments

end StorageInventory.CommandLine
