import Ipbench.Foundation.CText
import Ipbench.Foundation.Machine
import Ipbench.Foundation.PyBytes

namespace Ipbench
namespace Daemon

open Foundation

/-!
# A control session of the daemon

A session is the state machine of `ipbenchd.py` on one connection.  Its
handlers read lines in five places: `listen`, the outer and the inner loop of
`setup`, `run`, and in target mode the child forked by `run`.  Each of these
places is a `Phase`; the states `MARSHALL`, `ERROR`, `ABORT` and `RESET` read
nothing and are passed through while one line is handled.

An input carries what the environment decides while a line is handled: what
`readline` found, the results of the plugin's functions, whether a process to
be killed exists, and whether writing to the connection raises an exception.
A shunt function that fails raises a `RuntimeError` with its error text, which
the handlers catch, unless the text is not UTF-8: then Python has no string for
it, and the exception of decoding ends the session.  The handlers do not touch
the shared `TestStatus`: they emit the writes as events, and `statusAfter`
applies them.  Debugging output is left out.

In target mode `run` forks.  The parent is blocked in the plugin's `start`
while the child reads on, and a child that returns to the loop of `run` can
itself become a blocked parent.  The processes of a session are therefore a
stack: the blocked testers are numbered from zero, and the process that reads
comes after them.  `setup` of the target's shunt installs the handler of
`SIGUSR1`, which the processes forked later inherit; without it that signal
ends the tester.
-/

/-! ## Status lines -/

inductive StatusCode where
  | version
  | ok
  | validData
  | invalidData
  | closing
  | error
  | unavailable
  | localError
  | syntaxError
deriving DecidableEq, Repr

namespace StatusCode

def code : StatusCode → Nat
  | version => 100
  | ok => 200
  | validData => 220
  | invalidData => 221
  | closing => 222
  | error => 400
  | unavailable => 421
  | localError => 451
  | syntaxError => 500

def text : StatusCode → Text
  | version => "IPBENCH V1.0".toList
  | ok => "OK".toList
  | validData => "VALID DATA".toList
  | invalidData => "INVALID DATA".toList
  | closing => "CLOSING CONTROL CONNECTION".toList
  | error => "ERROR".toList
  | unavailable => "SERVICE NOT AVAILABLE".toList
  | localError => "LOCAL PROCESSING ERROR".toList
  | syntaxError => "SYNTAX ERROR".toList

end StatusCode

/-- A status line, with the words of a message in parentheses. -/
def strStatus (errCode : StatusCode) (msg : List Text) : Text :=
  if msg = [] then decimalText errCode.code ++ [' '] ++ errCode.text ++ ['\n']
  else
    decimalText errCode.code ++ [' '] ++ errCode.text ++ " (".toList ++
      List.intercalate [' '] msg ++ ")\n".toList

def helpText : Text :=
  ("\nHELP OPTIONS\n------------\nHELP\nHELLO\nLOAD" ++
    "\nSETUP target::<test-target>||port::<test-port>||args::<test-args>" ++
    "\nSTART\nABORT\nSTATUS\nQUIT\n").toList

def helpTextTarget : Text :=
  ("\nHELP OPTIONS\n------------\nHELP\nHELLO\nLOAD" ++
    "\nSETUP args::<target-test-args>\nSTART\nSTOP\nABORT\nSTATUS\nQUIT\n").toList

/-! ## Inputs and events -/

/-- What `readline` finds: a line, a line that is not UTF-8, or the end of the
stream, which reads as an empty line. -/
inductive Received where
  | line (text : Text)
  | undecodable
  | eof
deriving DecidableEq, Repr

/-- What Python raises when a function of the shunt returns -1: a
`RuntimeError`, or the exception of decoding its text. -/
inductive ShuntError where
  | runtime (detail : Text)
  | undecodable
deriving DecidableEq, Repr

def ShuntError.Readable : ShuntError → Prop
  | .runtime _ => True
  | .undecodable => False

instance (failure : ShuntError) : Decidable failure.Readable := by
  cases failure <;> (unfold ShuntError.Readable; infer_instance)

/-- The results of the plugin: the bytes of its name, the error of `load_plugin`
if it fails, the return values of `setup`, `start` and `marshall`, and the data
of `marshall` unless its pointer is null. -/
structure PluginResults where
  name : List UInt8
  load : Option ShuntError
  setup : Int
  start : Int
  marshall : Int
  data : Option (List UInt8)
deriving DecidableEq, Repr

/-- The process that `abort` kills: whether it exists at each of the two calls,
and whether it still clears `TestStatus` before it dies. -/
structure KillResults where
  found : Bool
  foundAgain : Bool
  clears : Bool
deriving DecidableEq, Repr

/-- What the environment decides while one line is handled. -/
structure SessionInput where
  received : Received
  plugin : PluginResults
  kills : KillResults
  writable : Bool
deriving DecidableEq, Repr

/-- The arguments of the plugin's `setup`, in either mode. -/
inductive SetupArgs where
  | client (hostname : Text) (port : Int) (clientargs : Text)
  | target (clientargs : Text)
deriving DecidableEq, Repr

inductive Signal where
  | sigint
  | sigkill
  | sigusr1
deriving DecidableEq, Repr

/-- The observable actions of a session.  `start` and `marshall` name the
process of the session that calls the plugin, and `stop` the process that is
sent `SIGUSR1` by its child. -/
inductive SessionEvent where
  | sent (text : Text)
  | sentData (data : List UInt8)
  | running (pid : Nat)
  | notRunning
  | killed (pid : Nat) (signal : Signal)
  | ownerCleared
  | loadPlugin (name : Text) (loaded : Bool)
  | pluginSetup (arguments : SetupArgs) (result : Int)
  | start (process : Nat)
  | stop (process : Nat)
  | killChild (process : Nat)
  | marshall (process : Nat)
deriving DecidableEq, Repr

/-- Where the session reads its lines.  `loaded` is the inner loop of `setup`. -/
inductive Phase where
  | listen
  | setup
  | loaded
  | run
  | child
deriving DecidableEq, Repr

/-- What becomes of the reading process.  `raised` is an exception caught in
`handle`, which ends the process; `killed` is a session that killed itself;
`forked` and `stopped` are the two ways in which `run` hands over to another
process in target mode. -/
inductive Outcome where
  | reading (phase : Phase)
  | finished
  | raised
  | killed
  | exited
  | forked
  | stopped
deriving DecidableEq, Repr

/-- The mode of the daemon and the interpreter's character tables. -/
structure Options where
  target : Bool
  tables : CharTables

/-- What one write to `TestStatus` leaves; zero is the cleared state. -/
def statusWrite (status : Nat) : SessionEvent → Nat
  | .running pid => pid
  | .notRunning => 0
  | .ownerCleared => 0
  | _ => status

def statusAfter (status : Nat) (events : List SessionEvent) : Nat :=
  events.foldl statusWrite status

/-- `readline`; `none` is the exception of decoding. -/
def SessionInput.readline (input : SessionInput) : Option Text :=
  match input.received with
  | .line text => some text
  | .undecodable => none
  | .eof => some []

/-- Send the texts and go on, unless the connection raises. -/
def answer (input : SessionInput) (texts : List Text) (next : Outcome × List SessionEvent) :
    Outcome × List SessionEvent :=
  if input.writable then (next.1, texts.map SessionEvent.sent ++ next.2) else (.raised, [])

def after (events : List SessionEvent) (next : Outcome × List SessionEvent) :
    Outcome × List SessionEvent :=
  (next.1, events ++ next.2)

/-! ## The shunt -/

/-- `ipbench_plugin_error`: `snprintf` leaves 254 bytes in its buffer of 255,
wherever a character ends, and `PyErr_SetString` decodes them. -/
def pluginError (msg source : List UInt8) : ShuntError :=
  match decodeStrict ((msg ++ literal ": " ++ source).take 254) with
  | some detail => .runtime detail
  | none => .undecodable

/-- `setup` of the shunt; `some` is what it raises. -/
def shuntSetup (options : Options) (plugin : PluginResults) : Option ShuntError :=
  if plugin.setup = -1 then
    some (pluginError
      (if options.target then literal "Target setup failed" else literal "Client setup failed")
      plugin.name)
  else none

def shuntStart (plugin : PluginResults) : Option ShuntError :=
  if plugin.start ≠ 0 then some (pluginError (literal "Plugin failed to start!") plugin.name)
  else none

def shuntMarshall (plugin : PluginResults) : Int × Option (List UInt8) :=
  (if plugin.marshall ≠ 0 then 1 else 0, plugin.data)

/-! ## The arguments of SETUP -/

/-- The local variables that the options of a line bind. -/
structure SetupOptions where
  testTarget : Option Text
  testPort : Option Int
  testArgs : Option Text
deriving DecidableEq, Repr

def noOptions : SetupOptions where
  testTarget := none
  testPort := none
  testArgs := none

/-- One option; `none` is the exception of unpacking or of `int`. -/
def parseOption (tables : CharTables) (bound : SetupOptions) (arg : Text) :
    Option SetupOptions :=
  match splitPair ':' ':' arg with
  | [subcmd, val] =>
      if subcmd = "target".toList then some { bound with testTarget := some val }
      else if subcmd = "port".toList then
        (tables.int val).map fun port => { bound with testPort := some port }
      else if subcmd = "args".toList then
        some { bound with testArgs := some (val.drop 1).dropLast }
      else some bound
  | _ => none

def parseOptions (tables : CharTables) (arglist : Text) : Option SetupOptions :=
  (splitPair '|' '|' arglist).foldlM (parseOption tables) noOptions

/-- The arguments passed to the shunt.  `none` is the exception of an unbound
variable or of a port outside the range of a C integer. -/
def setupArgs (options : Options) (bound : SetupOptions) : Option SetupArgs :=
  if options.target then bound.testArgs.map SetupArgs.target
  else
    match bound.testTarget, bound.testPort, bound.testArgs with
    | some target, some port, some args =>
        if -0x80000000 ≤ port ∧ port < 0x80000000 then some (.client target port args) else none
    | _, _, _ => none

/-! ## The handlers -/

/-- The handler of ERROR.  The flag stays when another test is running. -/
def error (input : SessionInput) (errCode : StatusCode) (msg : Text) :
    Outcome × List SessionEvent :=
  after (if errCode = .unavailable then [] else [.notRunning])
    (answer input [strStatus errCode [msg]] (.finished, []))

/-- `except RuntimeError as detail`, with what the clause does before ERROR.
The exception of decoding passes it by. -/
def failed (input : SessionInput) (cleanup : List SessionEvent) :
    ShuntError → Outcome × List SessionEvent
  | .runtime detail => after cleanup (error input .localError (strip detail))
  | .undecodable => (.raised, [])

/-- The handler of MARSHALL.  Without data the result cannot be unpacked. -/
def marshall (input : SessionInput) (process : Nat) : Outcome × List SessionEvent :=
  let result := shuntMarshall input.plugin
  after [.marshall process]
    (match result.2 with
      | none => (.raised, [])
      | some data =>
          answer input
            [strStatus (if result.1 ≠ 0 then .invalidData else .validData)
              ["Data to follow".toList],
              "Content-length: ".toList ++ decimalText data.length ++ ['\n']]
            (.finished, [.sentData data, .notRunning]))

/-- The handler of ABORT.  When the first signal finds no process it returns
nothing, which the state machine cannot unpack. -/
def abort (status pid : Nat) (kills : KillResults) : Outcome × List SessionEvent :=
  if status = 0 then (.finished, [])
  else if kills.found = false then (.raised, [.killed status .sigint, .notRunning])
  else
    after (.killed status .sigint ::
        if kills.foundAgain then [.killed status .sigkill] else [])
      (if status = pid then (.killed, [])
      else (.finished, if kills.clears then [.ownerCleared] else []))

/-- The two words that every reading loop tests first. -/
def leaving (status pid : Nat) (input : SessionInput) (line : Text)
    (rest : Outcome × List SessionEvent) : Outcome × List SessionEvent :=
  if line = "ABORT".toList then abort status pid input.kills
  else if line = "QUIT".toList then error input .closing "Come back soon!".toList
  else rest

/-- Answer HELP and STATUS in place and pass every other line on. -/
def parseCommonOpts (options : Options) (status : Nat) (phase : Phase) (input : SessionInput)
    (rest : Text → Outcome × List SessionEvent) : Outcome × List SessionEvent :=
  match input.readline with
  | none => (.raised, [])
  | some raw =>
      let lineIn := strip raw
      let cmd := matchNonspace lineIn
      if cmd = "HELP".toList then
        answer input [if options.target then helpTextTarget else helpText, strStatus .ok []]
          (.reading phase, [])
      else if cmd = "STATUS".toList then
        answer input
          [if options.target then "Target Daemon mode\n".toList
            else "Testing Daemon mode\n".toList,
            if status = 0 then "Not running a test\n".toList
            else "Running a test (".toList ++ decimalText status ++ ")\n".toList,
            strStatus .ok []]
          (.reading phase, [])
      else rest lineIn

def listen (status pid : Nat) (input : SessionInput) (line : Text) :
    Outcome × List SessionEvent :=
  leaving status pid input line
    (if matchNonspace line = "HELLO".toList then
      if 0 < status then error input .unavailable "Already Running".toList
      else
        answer input [strStatus .ok ["Ready to go".toList]] (.reading .setup, [.running pid])
    else answer input [strStatus .syntaxError []] (.reading .listen, []))

/-- The characters `[\s\w-]` of the argument of LOAD. -/
def loadArgument (tables : CharTables) (char : Char) : Bool :=
  isSpace char || tables.isWord char || char == '-'

def setup (options : Options) (status pid : Nat) (input : SessionInput) (line : Text) :
    Outcome × List SessionEvent :=
  leaving status pid input line
    (match options.tables.matchCommand (loadArgument options.tables) line with
      | none => answer input [strStatus .syntaxError []] (.reading .setup, [])
      | some (cmd, arg) =>
          if cmd = "LOAD".toList then
            match input.plugin.load with
            | some failure => after [.loadPlugin arg false] (failed input [] failure)
            | none =>
                after [.loadPlugin arg true]
                  (answer input [strStatus .ok []] (.reading .loaded, []))
          else answer input [strStatus .syntaxError []] (.reading .setup, []))

/-- The inner loop of `setup`, which begins each turn by sending a status.
Every line whose options parse ends the loop. -/
def loaded (options : Options) (status pid : Nat) (input : SessionInput) (line : Text) :
    Outcome × List SessionEvent :=
  leaving status pid input line
    (match options.tables.matchCommand (fun char => char != '\n') line with
      | none => answer input [strStatus .syntaxError [], strStatus .ok []] (.reading .loaded, [])
      | some (cmd, arglist) =>
          match parseOptions options.tables arglist with
          | none => (.raised, [])
          | some bound =>
              if cmd = "SETUP".toList then
                match setupArgs options bound with
                | none => (.raised, [])
                | some arguments =>
                    after [.pluginSetup arguments input.plugin.setup]
                      (match shuntSetup options input.plugin with
                        | some failure => failed input [] failure
                        | none => answer input [strStatus .ok []] (.reading .run, []))
              else answer input [strStatus .ok []] (.reading .run, []))

/-- `run` in client mode: the test runs while the line is handled.  In target
mode the process forks; the parent calls `start`. -/
def run (options : Options) (status pid process : Nat) (input : SessionInput) (line : Text) :
    Outcome × List SessionEvent :=
  leaving status pid input line
    (if options.tables.matchWord line = some "START".toList then
      after [.start process]
        (if options.target then (.forked, [])
        else
          match shuntStart input.plugin with
          | some failure => failed input [] failure
          | none => marshall input process)
    else answer input [strStatus .syntaxError []] (.reading .run, []))

/-- The child forked by `run`.  A line without a word sends it back to the loop
of `run`, and any word but STOP makes it marshall.  Neither of its signals is
guarded against a parent that exists no more. -/
def child (options : Options) (ppid process : Nat) (input : SessionInput) (line : Text) :
    Outcome × List SessionEvent :=
  if line = "ABORT".toList then
    (if input.kills.found then .exited else .raised, [.killed ppid .sigint])
  else if line = "QUIT".toList then error input .closing "Come back soon!".toList
  else
    match options.tables.matchWord line with
    | none => answer input [strStatus .syntaxError []] (.reading .run, [])
    | some cmd =>
        if cmd = "STOP".toList then
          if input.kills.found then (.stopped, [.stop (process - 1)]) else (.raised, [])
        else marshall input process

def handle (options : Options) (pids : Nat → Nat) (status process : Nat) (phase : Phase)
    (input : SessionInput) : Outcome × List SessionEvent :=
  parseCommonOpts options status phase input fun line =>
    match phase with
    | .listen => listen status (pids process) input line
    | .setup => setup options status (pids process) input line
    | .loaded => loaded options status (pids process) input line
    | .run => run options status (pids process) process input line
    | .child => child options (pids (process - 1)) process input line

/-- What a tester does when `start` returns after the signal of its child. -/
def resume (input : SessionInput) (process : Nat) : Outcome × List SessionEvent :=
  match shuntStart input.plugin with
  | some failure => failed input [.killChild process] failure
  | none => marshall input process

/-- `setup` of the target's shunt installs the handler before it calls the plugin. -/
def installsHandler : SessionEvent → Bool
  | .pluginSetup (.target _) _ => true
  | _ => false

@[simp] theorem installsHandler_sent (text : Text) : installsHandler (.sent text) = false := rfl

@[simp] theorem installsHandler_notRunning : installsHandler .notRunning = false := rfl

@[simp] theorem installsHandler_running (pid : Nat) : installsHandler (.running pid) = false := rfl

@[simp] theorem installsHandler_start (process : Nat) :
    installsHandler (.start process) = false := rfl

@[simp] theorem installsHandler_loadPlugin (name : Text) (loaded : Bool) :
    installsHandler (.loadPlugin name loaded) = false := rfl

/-! ## The session as a machine -/

/-- The reading process, the number of testers blocked in `start`, and whether
the handler of `SIGUSR1` is installed. -/
structure Session where
  reader : Outcome
  testers : Nat
  handler : Bool
deriving DecidableEq, Repr

namespace Session

/-- The session of a new connection. -/
def start : Session where
  reader := .reading .listen
  testers := 0
  handler := false

/-- Handle one line.  A session whose reader is gone reads nothing more. -/
def step (options : Options) (pids : Nat → Nat) (status : Nat) (session : Session)
    (input : SessionInput) : Session × List SessionEvent :=
  match session.reader with
  | .reading phase =>
      let handled := handle options pids status session.testers phase input
      let handler := session.handler || handled.2.any installsHandler
      match handled.1 with
      | .forked =>
          ({ reader := .reading .child, testers := session.testers + 1, handler := handler },
            handled.2)
      | .stopped =>
          if handler then
            let resumed := resume input (session.testers - 1)
            ({ reader := resumed.1, testers := session.testers - 1, handler := handler },
              handled.2 ++ resumed.2)
          -- the signal ends the tester, and its child exits
          else
            ({ reader := .exited, testers := session.testers - 1, handler := handler }, handled.2)
      | outcome =>
          ({ reader := outcome, testers := session.testers, handler := handler }, handled.2)
  | _ => (session, [])

end Session

end Daemon
end Ipbench
