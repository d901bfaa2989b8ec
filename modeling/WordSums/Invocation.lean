import WordSums.Session.Command

/-!
# Invocations

What the arguments of the program ask for. Options come first, each at most once, and name a file of
settings, a file in which the ledger is kept, or a server that is to answer in place of the program;
then comes a word for what is to be done, and after it what that needs. An argument that starts with
a hyphen is an option, wherever it stands, unless it is a lone hyphen or a double hyphen stands
before it. Arguments are read from left to right, and the first that does not fit decides, as does
the first that asks for help.
-/

namespace WordSums

inductive Argument where
  | plain
  | separator
  | long (label : List Char) (value : Option String)
  | short (letters : List Char)
deriving DecidableEq, Repr

/-- The look of an argument. A long option may carry its value behind an equals sign. -/
def Argument.ofString (argument : String) : Argument :=
  match argument.toList with
  | ['-', '-'] => .separator
  | '-' :: '-' :: rest =>
    let label := rest.takeWhile (· != '=')
    .long label (match rest.drop label.length with
      | _ :: value => some (String.ofList value)
      | [] => none)
  | '-' :: letter :: rest => .short (letter :: rest)
  | _ => .plain

inductive ProgramOption where
  | settings
  | store
  | server
deriving DecidableEq, Repr

namespace ProgramOption

def all : List ProgramOption := [settings, store, server]

def label : ProgramOption → String
  | settings => "config"
  | store => "store"
  | server => "server"

def letter? : ProgramOption → Option Char
  | settings => some 'c'
  | store => some 's'
  | server => none

/-- Whether the value of an option names a file and so cannot be empty. -/
def namesFile : ProgramOption → Bool
  | settings | store => true
  | server => false

def ofLabel? (text : List Char) : Option ProgramOption :=
  all.find? fun option => option.label.toList == text

def ofLetter? (letter : Char) : Option ProgramOption :=
  all.find? fun option => option.letter? == some letter

end ProgramOption

structure GivenOptions where
  settings : Option String := none
  store : Option String := none
  server : Option String := none
deriving DecidableEq, Repr

inductive Task where
  | command (command : Command)
  | converse
  | serve (address : String)
deriving DecidableEq, Repr

inductive Invocation where
  | help
  | version
  | run (options : GivenOptions) (task : Task)
deriving DecidableEq, Repr

inductive UsageFault where
  | unexpected (argument : String)
  | missingValue (label : String)
  | emptyValue (label : String)
  | repeated (label : String)
  | conflicting
  | missingTask
  | unknownTask (word : String)
  | missingQuestion
deriving DecidableEq, Repr

namespace UsageFault

def message : UsageFault → String
  | unexpected argument => "unexpected argument " ++ Text.quote argument
  | missingValue label => "a value is required for --" ++ label
  | emptyValue label => "the value of --" ++ label ++ " is empty"
  | repeated label => "--" ++ label ++ " was given twice"
  | conflicting => "--server cannot be used with --config or --store"
  | missingTask => "a command is required"
  | unknownTask word => "unknown command " ++ Text.quote word
  | missingQuestion => "a question is required"

end UsageFault

namespace GivenOptions

def value? (options : GivenOptions) : ProgramOption → Option String
  | .settings => options.settings
  | .store => options.store
  | .server => options.server

def withValue (options : GivenOptions) (option : ProgramOption) (value : String) : GivenOptions :=
  match option with
  | .settings => { options with settings := some value }
  | .store => { options with store := some value }
  | .server => { options with server := some value }

/-- Gives a value to an option that has none yet. -/
def set (options : GivenOptions) (option : ProgramOption) (value : String) : Except UsageFault GivenOptions :=
  if option.namesFile ∧ value = "" then .error (.emptyValue option.label)
  else if (options.value? option).isSome then .error (.repeated option.label)
  else .ok (options.withValue option value)

/-- Whether a server was named together with what a server decides for itself. -/
def conflict (options : GivenOptions) : Bool :=
  options.server.isSome && (options.settings.isSome || options.store.isSome)

end GivenOptions

namespace Invocation

def asksForHelp : Argument → Bool
  | .long label none => label == "help".toList
  | .short ('h' :: _) => true
  | _ => false

/-- The words of a question; nothing if help is asked for. -/
def readWords : List String → Except UsageFault (Option (List String))
  | [] => .ok (some [])
  | argument :: rest =>
    match Argument.ofString argument with
    | .separator => .ok (some rest)
    | .plain => (readWords rest).map (Option.map (argument :: ·))
    | other => if asksForHelp other then .ok none else .error (.unexpected argument)

/-- A question made of words, of which there must be one. -/
def readQuestion (method : Method) (arguments : List String) : Except UsageFault (Option Task) :=
  match readWords arguments with
  | .error fault => .error fault
  | .ok none => .ok none
  | .ok (some []) => .error .missingQuestion
  | .ok (some words) => .ok (some (.command (.ask method (" ".intercalate words))))

def readBare (task : Task) : List String → Except UsageFault (Option Task)
  | [] => .ok (some task)
  | argument :: rest =>
    match Argument.ofString argument, rest with
    | .separator, [] => .ok (some task)
    | .separator, extra :: _ => .error (.unexpected extra)
    | other, _ => if asksForHelp other then .ok none else .error (.unexpected argument)

/-- The address where questions are served unless another is given. -/
def standardAddress : String := "127.0.0.1:8080"

/-- The service of questions at an address; what is given is the address found so far. -/
def readServe (address : Option String) : List String → Except UsageFault (Option Task)
  | [] => .ok (some (.serve (address.getD standardAddress)))
  | argument :: rest =>
    match Argument.ofString argument, rest with
    | .long ['a', 'd', 'd', 'r'] (some value), rest =>
      if address.isSome then .error (.repeated "addr") else readServe (some value) rest
    | .long ['a', 'd', 'd', 'r'] none, value :: rest =>
      if Argument.ofString value ≠ .plain then .error (.missingValue "addr")
      else if address.isSome then .error (.repeated "addr")
      else readServe (some value) rest
    | .long ['a', 'd', 'd', 'r'] none, [] => .error (.missingValue "addr")
    | .separator, rest => readBare (.serve (address.getD standardAddress)) rest
    | other, _ => if asksForHelp other then .ok none else .error (.unexpected argument)

/-- The words for what can be done, apart from help. -/
def taskWords : List String := ["evaluate", "validate", "errors", "repl", "serve"]

/-- What a word and the arguments after it ask for; nothing if help is asked for. -/
def readTask (word : String) (arguments : List String) : Except UsageFault (Option Task) :=
  match word with
  | "evaluate" => readQuestion .evaluate arguments
  | "validate" => readQuestion .validate arguments
  | "errors" => readBare (.command .failures) arguments
  | "repl" => readBare .converse arguments
  | "serve" => readServe none arguments
  | "help" =>
    match arguments with
    | [] => .ok none
    | [word] => if word ∈ "help" :: taskWords then .ok none else .error (.unknownTask word)
    | _ :: extra :: _ => .error (.unexpected extra)
  | _ => .error (.unknownTask word)

def ofTask (options : GivenOptions) (word : String) (arguments : List String) : Except UsageFault Invocation :=
  match readTask word arguments with
  | .error fault => .error fault
  | .ok none => .ok .help
  | .ok (some task) => if options.conflict then .error .conflicting else .ok (.run options task)

def readAfter (options : GivenOptions) : List String → Except UsageFault Invocation
  | [] => .error .missingTask
  | argument :: rest =>
    match Argument.ofString argument with
    | .plain => ofTask options argument rest
    | .separator => .error .missingTask
    | .long label attached =>
      match ProgramOption.ofLabel? label, attached, rest with
      | some option, some value, rest => do readAfter (← options.set option value) rest
      | some option, none, value :: rest =>
        if Argument.ofString value = .plain then do readAfter (← options.set option value) rest
        else .error (.missingValue option.label)
      | some option, none, [] => .error (.missingValue option.label)
      | none, none, _ =>
        if label = "help".toList then .ok .help
        else if label = "version".toList then .ok .version
        else .error (.unexpected argument)
      | none, some _, _ => .error (.unexpected argument)
    | .short [] => .error (.unexpected argument)
    | .short (letter :: attached) =>
      match ProgramOption.ofLetter? letter, attached, rest with
      | some option, [], value :: rest =>
        if Argument.ofString value = .plain then do readAfter (← options.set option value) rest
        else .error (.missingValue option.label)
      | some option, [], [] => .error (.missingValue option.label)
      | some option, '=' :: value, rest => do readAfter (← options.set option (String.ofList value)) rest
      | some option, value, rest => do readAfter (← options.set option (String.ofList value)) rest
      | none, _, _ =>
        if letter = 'h' then .ok .help
        else if letter = 'V' then .ok .version
        else .error (.unexpected argument)

def read (arguments : List String) : Except UsageFault Invocation :=
  readAfter {} arguments

end Invocation

end WordSums
