import WordSums.Invocation
import WordSums.Ledger.Written
import WordSums.Session.Conversation
import WordSums.Settings

/-!
# Runs of the program

A run reads its arguments, then its settings, then its ledger, and only then does what was asked;
whatever is amiss before that is printed nowhere and leaves every file as it was. If the ledger is
kept in a file, the run ends by writing it back, whether the command succeeded or not, unless a
conversation broke off because its input could not be read. A run under a server leaves all
questions to the server, whoever that is.

What a run can do to the world around it is left open, so that the same run can be made in the world and
among things that are known beforehand. Then all that it finds is given as data, and so is what it leaves
behind.
-/

namespace WordSums

open WordSums.Time

/-- What a run leaves behind: a status, what it printed, and the file it wrote if it wrote one. -/
structure Outcome where
  status : Nat
  output : String
  written : Option (String × String)
deriving DecidableEq, Repr

inductive StartFault where
  | settings (fault : SettingsFault)
  | unreadableStore
  | store (fault : SnapshotFault)
deriving DecidableEq, Repr

def StartFault.message : StartFault → String
  | settings fault => fault.message
  | unreadableStore => "cannot read error store"
  | store fault => "cannot load error store: " ++ fault.message

/-- What a run can do: learn the contents of files by their names, read the clock, hold a conversation,
complain, and name the snapshot that it takes in the end, with the reading of the clock then. A server
answers commands, each at a reading of the clock. -/
structure World (m : Type → Type) where
  files : List String → m (String → FileContent)
  now : m Timestamp
  hold : {State : Type} → Conversation.Servant State → State → m (Conversation.Transcript State)
  complain : String → m Unit
  closing : m (SnapshotId × Timestamp)
  server : String → Timestamp → Command → Reply

/-- What a run finds around it if all is known beforehand: the lines of the input come with the reading of
the clock at each. -/
structure Surroundings where
  files : String → FileContent
  input : List (Timestamp × InputLine)
  now : Timestamp
  closing : Timestamp
  snapshotId : SnapshotId
  server : String → Timestamp → Command → Reply

def Surroundings.world (around : Surroundings) : World Id where
  files _ := around.files
  now := around.now
  hold servant state := Conversation.hold servant state around.input
  complain _ := ()
  closing := (around.snapshotId, around.closing)
  server := around.server

namespace Program

/-- The settings in the named file, or those that hold without one. -/
def loadSettings (files : String → FileContent) : Option String → Except StartFault Settings
  | none => .ok {}
  | some file => (Settings.ofFile (files file)).mapError .settings

/-- The ledger in the named file; a ledger begins empty if there is no file yet. -/
def loadLedger (files : String → FileContent) : Option String → Except StartFault Ledger
  | none => .ok .empty
  | some file =>
    if files file = .absent then .ok .empty
    else match (files file).text? with
      | none => .error .unreadableStore
      | some text =>
        match Snapshot.ofJson text with
        | .error fault => .error (.store fault)
        | .ok snapshot => .ok (.ofSnapshot snapshot)

/-- The service with which a run begins. -/
def load (files : String → FileContent) (options : GivenOptions) : Except StartFault Service := do
  let settings ← loadSettings files options.settings
  let ledger ← loadLedger files options.store
  return .standard settings ledger

/-- The file in which a ledger is kept, with the content that it is to have. -/
def savedAs (id : SnapshotId) (now : Timestamp) (options : GivenOptions) (ledger : Ledger) :
    Option (String × String) :=
  options.store.map fun file => (file, (ledger.snapshot id now).toJson)

def saved (around : Surroundings) : GivenOptions → Ledger → Option (String × String) :=
  savedAs around.snapshotId around.closing

def refused (status : Nat) : Outcome := ⟨status, "", none⟩

def versionText : String := "mathq 0.1.0\n"

def helpText : String :=
  "Answers questions like \"What is 2 plus 3?\"\n\n" ++
  "Usage: mathq [OPTIONS] <COMMAND>\n\n" ++
  "Commands:\n" ++
  "  evaluate  Answers a question\n" ++
  "  validate  Checks that a question is well formed\n" ++
  "  errors    Lists recorded failures\n" ++
  "  repl      Reads commands from standard input until `\\e`\n" ++
  "  serve     Serves evaluate, validate, and errors over HTTP until interrupted\n" ++
  "  help      Print this message\n\n" ++
  "Options:\n" ++
  "  -c, --config <CONFIG>  JSON config file\n" ++
  "  -s, --store <STORE>    JSON error store, loaded at start and saved at exit\n" ++
  "      --server <URL>     Send commands to the server at this URL\n" ++
  "  -h, --help             Print help\n" ++
  "  -V, --version          Print version\n"

/-- Leaves the commands among the lines of a conversation to a server. -/
def relay (server : Timestamp → Command → Reply) : Conversation.Servant Unit := fun _ now line =>
  match Command.read? line with
  | some command => (server now command, ())
  | none => (.failed .unknown, ())

def conversed {State : Type} (transcript : Conversation.Transcript State)
    (written : Option (String × String)) : Outcome :=
  if transcript.ended then ⟨0, transcript.output, written⟩ else ⟨1, transcript.output, none⟩

def replied (reply : Reply) (written : Option (String × String)) : Outcome :=
  ⟨if reply.succeeded then 0 else 1, reply.output, written⟩

end Program

namespace World

open Program

variable {m : Type → Type} [Monad m] (world : World m)

def refuse (status : Nat) (reason : String) : m Outcome := do
  world.complain reason
  return refused status

def save (options : GivenOptions) (ledger : Ledger) : m (Option (String × String)) := do
  let (id, now) ← world.closing
  return savedAs id now options ledger

/-- Does a task with a service of its own. -/
def perform (options : GivenOptions) (service : Service) : Task → m Outcome
  | .serve _ => world.refuse 1 "this program does not serve"
  | .command command => do
    let (reply, after) := service.execute (← world.now) command
    return replied reply (← world.save options after.ledger)
  | .converse => do
    let transcript ← world.hold Service.obey service
    return conversed transcript (← world.save options transcript.state.ledger)

/-- Does a task that is left to the server at an address. -/
def performRemotely (address : String) : Task → m Outcome
  | .serve _ => world.refuse 1 "a server cannot be asked to serve"
  | .command command => return replied (world.server address (← world.now) command) none
  | .converse => return conversed (← world.hold (relay (world.server address)) ()) none

def performUnder (options : GivenOptions) (task : Task) : m Outcome := do
  match options.server with
  | some address => world.performRemotely address task
  | none =>
    match load (← world.files (options.settings.toList ++ options.store.toList)) options with
    | .error fault => world.refuse 1 fault.message
    | .ok service => world.perform options service task

def run (arguments : List String) : m Outcome :=
  match Invocation.read arguments with
  | .error fault => world.refuse 2 fault.message
  | .ok .help => return ⟨0, helpText, none⟩
  | .ok .version => return ⟨0, versionText, none⟩
  | .ok (.run options task) => world.performUnder options task

end World

namespace Program

def perform (around : Surroundings) (options : GivenOptions) (service : Service) (task : Task) : Outcome :=
  Id.run (around.world.perform options service task)

def run (around : Surroundings) (arguments : List String) : Outcome :=
  Id.run (around.world.run arguments)

end Program

end WordSums
