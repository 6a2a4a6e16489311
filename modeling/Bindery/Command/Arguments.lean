import Bindery.Decimal.Width
import Bindery.Files.Path
import Bindery.Settings.Level

/-!
# Arguments

What a user asks for on the command line: a command with its options (`Flag`), before or behind
which stand the options that every command has.  `Request.ofArguments` reads it off the arguments,
or says as a `UsageFault` why they ask for nothing.

Arguments are read in order, so the first fault is the one that counts, and asking for the version
settles the request there.  Two rules are less obvious.  A value in an argument of its own is judged
only when the next option comes or when the arguments end; where a command comes first, everything
behind the command is judged before it.  And an option that every command has may stand on both
sides of the command; then the one behind it counts.
-/

namespace Bindery

open Text

/-- The options, all of which take a value. -/
inductive Flag where
  | config
  | logLevel
  | manifest
  | output
  | jobs
  deriving DecidableEq, Repr

/-- Why arguments ask for nothing. -/
inductive UsageFault where
  | unknown (argument : String)
  | missingValue (flag : Flag)
  | badValue (flag : Flag) (value : String)
  | repeated (flag : Flag)
  | missingFlag (flag : Flag)
  | missingCommand
  deriving DecidableEq, Repr

namespace Flag

/-- The options that every command has. -/
def shared : List Flag := [.config, .logLevel]

/-- The long name of an option. -/
def longName : Flag → String
  | .config => "config"
  | .logLevel => "log-level"
  | .manifest => "manifest"
  | .output => "output"
  | .jobs => "jobs"

/-- The short name of an option, if it has one. -/
def shortName? : Flag → Option Char
  | .config => some 'c'
  | .logLevel => none
  | .manifest => some 'm'
  | .output => some 'o'
  | .jobs => some 'j'

/-- A natural number of sixty-four bits, possibly with a plus in front. -/
def readCount? (value : String) : Option Nat :=
  let digits :=
    match value.toList with
    | '+' :: digits => digits
    | digits => digits
  if digits.isEmpty || !digits.all Char.isDigit then none
  else
    let count := digits.foldl (fun n c => 10 * n + (c.toNat - '0'.toNat)) 0
    if count < Decimal.capacity 64 then some count else none

/-- Whether an option can have a value. -/
def accepts (flag : Flag) (value : String) : Bool :=
  match flag with
  | .config | .manifest | .output => !value.isEmpty
  | .logLevel => (Level.ofText value).toOption.isSome
  | .jobs => (readCount? value).isSome

end Flag

/-! ### Single arguments -/

/-- What a single argument is. -/
inductive ArgumentKind where
  /-- An option, possibly with its value. -/
  | flag (f : Flag) (value : Option String)
  | version
  | help
  /-- A word that begins with no dash. -/
  | word (w : String)
  /-- Two dashes, behind which nothing is an option. -/
  | escape
  | unknown

/-- The values given for options. -/
abbrev Given := List (Flag × String)

/-- The value behind the name of an option in one argument. -/
def attached? : List Char → Option String
  | [] => none
  | '=' :: value => some (String.ofList value)
  | value => some (String.ofList value)

/-- What an argument with two dashes is, among known options. -/
def longKind (known : List Flag) (outermost : Bool) (text : List Char) : ArgumentKind :=
  let (name, value) :=
    match cutAt? '=' text with
    | some (name, value) => (String.ofList name, some (String.ofList value))
    | none => (String.ofList text, none)
  match known.find? (·.longName == name) with
  | some f => .flag f value
  | none =>
    if name = "help" && value.isNone then .help
    else if name = "version" && value.isNone && outermost then .version
    else .unknown

/-- What an argument with one dash is, among known options. -/
def shortKind (known : List Flag) (outermost : Bool) (letter : Char) (behind : List Char) :
    ArgumentKind :=
  match known.find? (·.shortName? == some letter) with
  | some f => .flag f (attached? behind)
  | none =>
    if letter = 'h' then .help
    else if letter = 'V' && outermost then .version
    else .unknown

/-- What an argument is, among known options. -/
def argumentKind (known : List Flag) (outermost : Bool) (argument : String) : ArgumentKind :=
  match argument.toList with
  | ['-', '-'] => .escape
  | '-' :: '-' :: text => longKind known outermost text
  | '-' :: letter :: behind => shortKind known outermost letter behind
  | _ => .word argument

/-! ### Options -/

/-- Options with their values, the last of which may not have been judged yet. -/
structure Options where
  given : Given := []
  /-- An option whose value stood in an argument of its own. -/
  pending : Option (Flag × String) := none

/-- What reading options comes to. -/
inductive Reading where
  /-- The options, and the arguments from the first word on. -/
  | options (found : Options) (rest : List String)
  | version
  | help
  | fault (f : UsageFault)

/-- One more value among those given. -/
def give (given : Given) (f : Flag) (value : String) : Except UsageFault Given :=
  if (given.lookup f).isSome then .error (.repeated f)
  else if f.accepts value then .ok ((f, value) :: given)
  else .error (.badValue f value)

/-- The options with every value judged. -/
def Options.settle (o : Options) : Except UsageFault Given :=
  match o.pending with
  | none => .ok o.given
  | some (f, value) => give o.given f value

/-- What comes next once every value is judged. -/
def Options.settled (o : Options) (next : Given → Reading) : Reading :=
  match o.settle with
  | .ok given => next given
  | .error fault => .fault fault

/-- The options at the start of arguments. -/
def readOptions (known : List Flag) (outermost : Bool) (o : Options) : List String → Reading
  | [] => o.settled fun given => .options ⟨given, none⟩ []
  | argument :: rest =>
    match argumentKind known outermost argument with
    | .word _ => .options o (argument :: rest)
    | .version => o.settled fun _ => .version
    | .help => o.settled fun _ => .help
    | .unknown => .fault (.unknown argument)
    | .escape =>
      match rest with
      | [] => o.settled fun given => .options ⟨given, none⟩ []
      | word :: _ => .fault (.unknown word)
    | .flag f (some value) =>
      match o.settle.bind fun given => give given f value with
      | .ok given => readOptions known outermost ⟨given, none⟩ rest
      | .error fault => .fault fault
    | .flag f none =>
      match o.settle, rest with
      | .error fault, _ => .fault fault
      | .ok _, [] => .fault (.missingValue f)
      | .ok given, value :: others =>
        match argumentKind known outermost value with
        | .word value => readOptions known outermost ⟨given, some (f, value)⟩ others
        | _ => .fault (.missingValue f)

/-! ### Requests -/

/-- What a command does. -/
inductive Action where
  /-- Write the modules for a manifest. -/
  | generate (manifest : Path) (output : Option Path) (jobs : Option Nat)
  /-- Report on a manifest without writing. -/
  | check (manifest : Path)
  /-- List the scopes with their components. -/
  | scopes
  deriving DecidableEq, Repr

/-- What a user asks for. -/
inductive Request where
  | version
  | help
  | act (action : Action) (config : Option Path) (level : Option Level)
  deriving DecidableEq, Repr

/-- The names of the commands with the options of their own. -/
def commands : List (String × List Flag) :=
  [("generate", [.manifest, .output, .jobs]), ("check", [.manifest]), ("scopes", [])]

namespace Given

/-- The path given for an option. -/
def path? (given : Given) (f : Flag) : Option Path := (given.lookup f).map Path.mk

/-- The action that a command with options stands for. -/
def action (given : Given) (command : String) : Except UsageFault Action :=
  match command, given.path? .manifest with
  | "scopes", _ => .ok .scopes
  | _, none => .error (.missingFlag .manifest)
  | "check", some manifest => .ok (.check manifest)
  | _, some manifest =>
    .ok (.generate manifest (given.path? .output) ((given.lookup .jobs).bind Flag.readCount?))

/-- The request for an action with the options before the command and behind it. -/
def request (before behind : Given) (action : Action) : Request :=
  let level := ((behind.lookup .logLevel) <|> (before.lookup .logLevel)).bind fun text =>
    (Level.ofText text).toOption
  .act action ((behind.path? .config) <|> (before.path? .config)) level

end Given

/-- The name of the command that tells about the others. -/
def helpName : String := "help"

/-- The request for help on what is named, which is a single command at most. -/
def helpRequest : List String → Except UsageFault Request
  | [] => .ok .help
  | name :: rest =>
    if name = helpName || (commands.lookup name).isSome then
      match rest with
      | [] => .ok .help
      | further :: _ => .error (.unknown further)
    else .error (.unknown name)

/-- The request of a command and what follows it. -/
def commandRequest (before : Options) (command : String) (rest : List String) :
    Except UsageFault Request :=
  match commands.lookup command with
  | none => if command = helpName then helpRequest rest else .error (.unknown command)
  | some own =>
    match readOptions (own ++ Flag.shared) false {} rest with
    | .version => .ok .version
    | .help => .ok .help
    | .fault f => .error f
    | .options _ (word :: _) => .error (.unknown word)
    | .options behind [] => do
      let behind ← behind.settle
      let action ← behind.action command
      return Given.request (← before.settle) behind action

/-- The request that arguments make. -/
def Request.ofArguments (arguments : List String) : Except UsageFault Request :=
  match readOptions Flag.shared true {} arguments with
  | .version => .ok .version
  | .help => .ok .help
  | .fault f => .error f
  | .options _ [] => .error .missingCommand
  | .options before (command :: rest) => commandRequest before command rest

end Bindery
