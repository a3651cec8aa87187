import Ipbench.Controller.Unmarshall
import Ipbench.Daemon.Lifecycle
import Mathlib.Algebra.Order.Group.Nat

namespace Ipbench
namespace Controller

open Foundation

/-!
# The SETUP line

The controller writes the arguments of a test between separators, with the last
one in quotes; the daemon takes the line apart with two splits and cuts off the
quotes.  Nothing is escaped.  A text that contains no separator is nevertheless
not cut at its ends, because the quotes, the digits of the port and the names of
the options keep the characters of a separator apart.

The daemon hands the port to a function of C, whose integers end at `2^31`, and
the texts as strings of C, which end at a zero.
-/

/-! ## The two sides -/

/-- `repr` of an integer. -/
def reprInt : Int → Text
  | .ofNat value => decimalText value
  | .negSucc value => '-' :: decimalText (value + 1)

/-- The command of `IpbenchTestClient.setup`. -/
def clientSetup (testTarget : Option Text) (testPort : Option Int) (testArgs : Option Text) :
    Except PyError Text :=
  match testTarget with
  | none => .error (.ipBenchError "Must specify --test-target".toList)
  | some target =>
      .ok ("SETUP target::".toList ++ target ++ "||".toList ++ "port::".toList ++
        reprInt (testPort.getD 0) ++ "||args::\"".toList ++ testArgs.getD [] ++ ['"'])

/-- The command of `IpbenchTestTarget.setup`. -/
def targetSetup (testArgs : Text) : Text :=
  "SETUP args::\"".toList ++ testArgs ++ ['"']

def sendCommand (cmd : Text) : List UInt8 :=
  encode (cmd ++ ['\n'])

/-- What `readline` of the daemon finds in a stream. -/
def received (stream : List UInt8) : Daemon.Received :=
  match decodeStrict (readline stream) with
  | none => .undecodable
  | some [] => .eof
  | some line => .line line

def setupCalls (events : List Daemon.SessionEvent) : List Daemon.SetupArgs :=
  events.filterMap fun event =>
    match event with
    | .pluginSetup arguments _ => some arguments
    | _ => none

/-- The arguments that the plugin's `setup` finds: strings and an integer of C. -/
inductive PluginSetup where
  | client (hostname : List UInt8) (port : Int) (clientargs : List UInt8)
  | target (clientargs : List UInt8)
deriving DecidableEq, Repr

def pluginSetup : Daemon.SetupArgs → PluginSetup
  | .client hostname port clientargs => .client (cString hostname) port (cString clientargs)
  | .target clientargs => .target (cString clientargs)

/-! ## The property -/

/-- A loaded session that reads a line sets the plugin up once, with these arguments. -/
def SetsUp (options : Daemon.Options) (line : Text) (arguments : Daemon.SetupArgs) : Prop :=
  ∀ (pids : Nat → Nat) (status testers : Nat) (handler : Bool) (input : Daemon.SessionInput)
    (rest : List UInt8), input.received = received (sendCommand line ++ rest) →
      setupCalls (Daemon.Session.step options pids status
        { reader := .reading .loaded, testers := testers, handler := handler } input).2 =
          [arguments]

/-- A test target: one line, without the separators. -/
structure TargetText (text : Text) : Prop where
  line : '\n' ∉ text
  bar : '|' ∉ text
  colons : ¬ [':', ':'] <:+: text

/-- Test arguments: one line, without the separators. -/
structure ArgsText (text : Text) : Prop where
  line : '\n' ∉ text
  bars : ¬ ['|', '|'] <:+: text
  colons : ¬ [':', ':'] <:+: text

/-! ## The options of the line -/

section Options

variable (tables : CharTables) {target args : Text}

theorem splitPair_option {name value : Text} (named : ':' ∉ name)
    (single : ¬ [':', ':'] <:+: value) :
    splitPair ':' ':' (name ++ ':' :: ':' :: value) = [name, value] := by
  rw [splitPair_append named, splitPair_of_not_infix single]

/-- A text between quotes contains the separators that it contains without them. -/
theorem pair_infix_quoted {char : Char} {text : Text} (other : char ≠ '"')
    (inside : [char, char] <:+: '"' :: (text ++ ['"'])) : [char, char] <:+: text := by
  have unquoted : [char, char] <:+: text ++ ['"'] :=
    pair_infix_append_left (fun member => other (List.mem_singleton.mp member))
      (List.singleton_append ▸ inside)
  exact pair_infix_concat other unquoted

theorem parseOption_target (fine : TargetText target) (bound : Daemon.SetupOptions) :
    Daemon.parseOption tables bound ("target".toList ++ ':' :: ':' :: target) =
      some { bound with testTarget := some target } := by
  rw [Daemon.parseOption, splitPair_option (by decide) fine.colons]
  exact if_pos rfl

theorem parseOption_port (port : Nat) (bound : Daemon.SetupOptions) :
    Daemon.parseOption tables bound ("port".toList ++ ':' :: ':' :: decimalText port) =
      some { bound with testPort := some (port : Int) } := by
  have single : ¬ [':', ':'] <:+: decimalText port := by
    intro inside
    have digit := isDigit_of_mem_decimalText (inside.subset List.mem_cons_self)
    exact absurd digit (by decide)
  rw [Daemon.parseOption, splitPair_option (by decide) single]
  dsimp only
  rw [if_neg (by decide), if_pos rfl, tables.int_decimalText]
  rfl

theorem parseOption_args (fine : ArgsText args) (bound : Daemon.SetupOptions) :
    Daemon.parseOption tables bound ("args".toList ++ ':' :: ':' :: '"' :: (args ++ ['"'])) =
      some { bound with testArgs := some args } := by
  have single : ¬ [':', ':'] <:+: '"' :: (args ++ ['"']) :=
    fun inside => fine.colons (pair_infix_quoted (by decide) inside)
  rw [Daemon.parseOption, splitPair_option (by decide) single]
  dsimp only
  rw [if_neg (by decide), if_neg (by decide), if_pos rfl, List.drop_succ_cons, List.drop_zero,
    List.dropLast_concat]

theorem splitPair_args (fine : ArgsText args) :
    splitPair '|' '|' ("args".toList ++ ':' :: ':' :: '"' :: (args ++ ['"'])) =
      ["args".toList ++ ':' :: ':' :: '"' :: (args ++ ['"'])] := by
  apply splitPair_of_not_infix
  intro inside
  have quoted : ['|', '|'] <:+: "args::".toList ++ '"' :: (args ++ ['"']) := inside
  exact fine.bars (pair_infix_quoted (by decide)
    (pair_infix_append_left (by decide) quoted))

theorem parseOptions_target (fine : ArgsText args) :
    Daemon.parseOptions tables ("args".toList ++ ':' :: ':' :: '"' :: (args ++ ['"'])) =
      some { Daemon.noOptions with testArgs := some args } := by
  rw [Daemon.parseOptions, splitPair_args fine, List.foldlM_cons, parseOption_args tables fine]
  rfl

theorem parseOptions_client (targetFine : TargetText target) (port : Nat)
    (argsFine : ArgsText args) :
    Daemon.parseOptions tables
        ("target".toList ++ ':' :: ':' :: target ++ '|' :: '|' ::
          ("port".toList ++ ':' :: ':' :: decimalText port ++ '|' :: '|' ::
            ("args".toList ++ ':' :: ':' :: '"' :: (args ++ ['"'])))) =
      some { testTarget := some target, testPort := some (port : Int), testArgs := some args } := by
  have targetBar : '|' ∉ "target".toList ++ ':' :: ':' :: target := by
    intro member
    rcases List.mem_append.mp (show '|' ∈ "target::".toList ++ target from member) with name | value
    · exact absurd name (by decide)
    · exact targetFine.bar value
  have portBar : '|' ∉ "port".toList ++ ':' :: ':' :: decimalText port := by
    intro member
    rcases List.mem_append.mp (show '|' ∈ "port::".toList ++ decimalText port from member) with
      name | value
    · exact absurd name (by decide)
    · exact absurd (isDigit_of_mem_decimalText value) (by decide)
  rw [Daemon.parseOptions, splitPair_append targetBar, splitPair_append portBar,
    splitPair_args argsFine, List.foldlM_cons, parseOption_target tables targetFine]
  change List.foldlM _ _ _ = _
  rw [List.foldlM_cons, parseOption_port tables]
  change List.foldlM _ _ _ = _
  rw [List.foldlM_cons, parseOption_args tables argsFine]
  rfl

end Options

/-! ## The line -/

section Line

variable {options : Daemon.Options} {body : Text}

/-- A command that begins and ends with visible characters is read as it was sent. -/
theorem lineIn_sendCommand {line : Text} {first last : Char} (single : '\n' ∉ line)
    (starts : line.head? = some first) (ends : line.getLast? = some last)
    (firstVisible : isSpace first = false) (lastVisible : isSpace last = false)
    {input : Daemon.SessionInput} {rest : List UInt8}
    (read : input.received = received (sendCommand line ++ rest)) :
    input.lineIn = some line := by
  have whole : input.received = .line (line ++ ['\n']) := by
    rw [read, received, sendCommand, readline_encode single, decodeStrict_encode]
    cases line with
    | nil => cases starts
    | cons char line => rfl
  rw [Daemon.SessionInput.lineIn, Daemon.SessionInput.readline, whole]
  exact congrArg some (strip_newline starts ends firstVisible lastVisible)

/-- A kind of events that only the plugin's `setup` is. -/
def IsSetup : Daemon.SessionEvent → Prop
  | .pluginSetup _ _ => True
  | _ => False

theorem isSetup_unrelated : Daemon.Unrelated IsSetup :=
  ⟨fun _ => id, id, fun _ _ => id, id⟩

theorem setupCalls_of_free {events : List Daemon.SessionEvent} (free : Daemon.Free IsSetup events) :
    setupCalls events = [] := by
  apply List.filterMap_eq_nil_iff.mpr
  intro event member
  have other := free event member
  cases event with
  | pluginSetup arguments result => exact False.elim (other trivial)
  | _ => rfl

theorem setupCalls_after {arguments : Daemon.SetupArgs} {result : Int}
    {next : Daemon.Outcome × List Daemon.SessionEvent} (free : Daemon.Free IsSetup next.2) :
    setupCalls (Daemon.after [.pluginSetup arguments result] next).2 = [arguments] :=
  congrArg (List.cons arguments) (setupCalls_of_free free)

/-- The handler of a SETUP line calls `setup` once, unless the arguments raise. -/
theorem loaded_setup (status pid : Nat) (input : Daemon.SessionInput) {arglist : Text}
    (single : '\n' ∉ arglist) (nonempty : arglist ≠ []) {bound : Daemon.SetupOptions}
    (parsed : Daemon.parseOptions options.tables arglist = some bound) :
    (Daemon.loaded options status pid input ("SETUP".toList ++ ' ' :: arglist)).1.Plain ∧
      setupCalls (Daemon.loaded options status pid input ("SETUP".toList ++ ' ' :: arglist)).2 =
        (Daemon.setupArgs options bound).toList := by
  have letters : ∀ char ∈ "SETUP".toList, options.tables.isWord char = true :=
    options.tables.isWord_of_all (by decide)
  have visible : ∀ char ∈ arglist, (char != '\n') = true := by
    intro char member
    exact bne_iff_ne.mpr fun same => single (same ▸ member)
  have matched := options.tables.matchCommand_append letters (by decide) visible nonempty
  have other : ∀ {word : Text}, word.head? ≠ some 'S' →
      "SETUP".toList ++ ' ' :: arglist ≠ word := by
    rintro word different rfl
    exact different rfl
  rw [Daemon.loaded, Daemon.leaving, if_neg (other (by decide)), if_neg (other (by decide)),
    matched]
  dsimp only
  rw [parsed]
  dsimp only
  rw [if_pos rfl]
  cases Daemon.setupArgs options bound with
  | none => exact ⟨(Daemon.Outcome.ended_raised rfl).plain, rfl⟩
  | some arguments =>
      dsimp only
      cases Daemon.shuntSetup options input.plugin with
      | none =>
          refine ⟨?_, setupCalls_after (Daemon.free_answer isSetup_unrelated Daemon.free_nil)⟩
          rcases Daemon.answer_cases input [Daemon.strStatus .ok []] (.reading .run, []) 0 with
            ⟨_, reader, _⟩ | ⟨_, raised, _⟩
          · exact Daemon.Outcome.plain_reading reader
          · exact (Daemon.Outcome.ended_raised raised).plain
      | some failure =>
          exact ⟨(Daemon.failed_ended input [] failure).plain,
            setupCalls_after (Daemon.free_failed isSetup_unrelated input Daemon.free_nil _)⟩

/-- A SETUP line in quotes sets the plugin up with the arguments its options bind. -/
theorem setupCalls_step (single : '\n' ∉ body) {bound : Daemon.SetupOptions}
    (parsed : Daemon.parseOptions options.tables (body ++ ['"']) = some bound)
    (pids : Nat → Nat) (status testers : Nat) (handler : Bool) {input : Daemon.SessionInput}
    {rest : List UInt8}
    (read : input.received =
      received (sendCommand ("SETUP".toList ++ ' ' :: (body ++ ['"'])) ++ rest)) :
    setupCalls (Daemon.Session.step options pids status
        { reader := .reading .loaded, testers := testers, handler := handler } input).2 =
      (Daemon.setupArgs options bound).toList := by
  have quoted : '\n' ∉ body ++ ['"'] := by
    intro member
    rcases List.mem_append.mp member with inside | quote
    · exact single inside
    · exact absurd quote (by decide)
  have whole : '\n' ∉ "SETUP".toList ++ ' ' :: (body ++ ['"']) := by
    intro member
    rcases List.mem_append.mp (show '\n' ∈ "SETUP ".toList ++ (body ++ ['"']) from member) with
      word | argument
    · exact absurd word (by decide)
    · exact quoted argument
  have last : ("SETUP".toList ++ ' ' :: (body ++ ['"'])).getLast? = some '"' := by
    rw [← List.cons_append, ← List.append_assoc]
    exact List.getLast?_concat
  have line : input.lineIn = some ("SETUP".toList ++ ' ' :: (body ++ ['"'])) :=
    lineIn_sendCommand whole rfl last (by decide) (by decide) read
  have word : matchNonspace ("SETUP".toList ++ ' ' :: (body ++ ['"'])) = "SETUP".toList := rfl
  have other : ¬ Daemon.CommonOpt ("SETUP".toList ++ ' ' :: (body ++ ['"'])) := by
    rw [Daemon.CommonOpt, word]
    decide
  have handled := Daemon.handle_line options pids status testers .loaded line other
  have calls := loaded_setup status (pids testers) input quoted
    (List.append_ne_nil_of_right_ne_nil _ (by decide)) parsed
  rw [Daemon.Session.step_reading options pids status rfl input (by rw [handled]; exact calls.1)]
  dsimp only
  rw [handled]
  exact calls.2

end Line

/-! ## The round trip -/

section RoundTrip

variable {target args : Text}

/-- The options of the client's line, up to the last quote. -/
def clientBody (target : Text) (port : Nat) (args : Text) : Text :=
  "target".toList ++ ':' :: ':' :: target ++ '|' :: '|' ::
    ("port".toList ++ ':' :: ':' :: decimalText port ++ '|' :: '|' ::
      ("args".toList ++ ':' :: ':' :: '"' :: args))

theorem clientSetup_body (target : Text) (port : Nat) (args : Text) :
    clientSetup (some target) (some (port : Int)) (some args) =
      .ok ("SETUP".toList ++ ' ' :: (clientBody target port args ++ ['"'])) := by
  have pieces : "SETUP target::".toList ++ target ++ "||".toList ++ "port::".toList ++
      decimalText port ++ "||args::\"".toList ++ args ++ ['"'] =
      "SETUP".toList ++ ' ' :: (clientBody target port args ++ ['"']) := by
    unfold clientBody
    simp only [List.append_assoc, List.cons_append]
    rfl
  exact congrArg Except.ok pieces

theorem single_clientBody (targetFine : TargetText target) (port : Nat) (argsFine : ArgsText args) :
    '\n' ∉ clientBody target port args := by
  intro member
  have pieces : '\n' ∈ "target::".toList ++ target ++ ("||port::".toList ++ decimalText port ++
      ("||args::\"".toList ++ args)) := member
  rw [List.mem_append, List.mem_append, List.mem_append, List.mem_append, List.mem_append] at pieces
  rcases pieces with (name | value) | (name | digit) | name | value
  · exact absurd name (by decide)
  · exact targetFine.line value
  · exact absurd name (by decide)
  · exact absurd (isDigit_of_mem_decimalText digit) (by decide)
  · exact absurd name (by decide)
  · exact argsFine.line value

/-- What the daemon does with the line of a client, whatever its port. -/
theorem clientSetup_calls (tables : CharTables) (targetFine : TargetText target) (port : Nat)
    (argsFine : ArgsText args) (pids : Nat → Nat) (status testers : Nat) (handler : Bool)
    {input : Daemon.SessionInput} {rest : List UInt8}
    (read : input.received = received
      (sendCommand ("SETUP".toList ++ ' ' :: (clientBody target port args ++ ['"'])) ++ rest)) :
    setupCalls (Daemon.Session.step { target := false, tables := tables } pids status
        { reader := .reading .loaded, testers := testers, handler := handler } input).2 =
      if port < 2 ^ 31 then [.client target port args] else [] := by
  have parsed : Daemon.parseOptions tables (clientBody target port args ++ ['"']) =
      some { testTarget := some target, testPort := some (port : Int), testArgs := some args } := by
    rw [← parseOptions_client tables targetFine port argsFine]
    unfold clientBody
    simp only [List.append_assoc, List.cons_append]
  have calls : _ = (Daemon.setupArgs { target := false, tables := tables } _).toList :=
    setupCalls_step (single_clientBody targetFine port argsFine) parsed pids status testers
      handler read
  rw [calls, Daemon.setupArgs, if_neg Bool.false_ne_true]
  dsimp only
  by_cases small : port < 2 ^ 31
  · rw [if_pos (by omega), if_pos small]
    rfl
  · rw [if_neg (by omega), if_neg small]
    rfl

/-- Both forms of the line come through: the shunt gets the arguments as they
were given, and the plugin their bytes when they contain no zero. -/
theorem setup_roundTrip (tables : CharTables) {port : Nat} (targetFine : TargetText target)
    (argsFine : ArgsText args) (small : port < 2 ^ 31) :
    (∃ line, clientSetup (some target) (some (port : Int)) (some args) = .ok line ∧
      SetsUp { target := false, tables := tables } line (.client target port args)) ∧
    SetsUp { target := true, tables := tables } (targetSetup args) (.target args) ∧
    (Char.ofNat 0 ∉ target → Char.ofNat 0 ∉ args →
      pluginSetup (.client target port args) = .client (encode target) port (encode args) ∧
        pluginSetup (.target args) = .target (encode args)) := by
  refine ⟨⟨_, clientSetup_body target port args, ?_⟩, ?_, ?_⟩
  · intro pids status testers handler input rest read
    rw [clientSetup_calls tables targetFine port argsFine pids status testers handler read,
      if_pos small]
  · intro pids status testers handler input rest read
    have single : '\n' ∉ "args".toList ++ ':' :: ':' :: '"' :: args := by
      simp [argsFine.line]
    have parsed : Daemon.parseOptions tables
        (("args".toList ++ ':' :: ':' :: '"' :: args) ++ ['"']) =
        some { Daemon.noOptions with testArgs := some args } :=
      parseOptions_target tables argsFine
    have calls : _ = (Daemon.setupArgs { target := true, tables := tables } _).toList :=
      setupCalls_step single parsed pids status testers handler read
    exact calls
  · intro targetWhole argsWhole
    rw [pluginSetup, pluginSetup, cString_eq_encode targetWhole, cString_eq_encode argsWhole]
    exact ⟨rfl, rfl⟩

/-- A port that is no integer of C sets nothing up. -/
theorem not_setsUp_of_large (tables : CharTables) (targetFine : TargetText target) {port : Nat}
    (argsFine : ArgsText args) (large : 2 ^ 31 ≤ port) :
    ¬ SetsUp { target := false, tables := tables }
      ("SETUP".toList ++ ' ' :: (clientBody target port args ++ ['"']))
      (.client target port args) := by
  intro sets
  have input : ∃ input : Daemon.SessionInput, input.received = received
      (sendCommand ("SETUP".toList ++ ' ' :: (clientBody target port args ++ ['"'])) ++ []) :=
    ⟨{ Daemon.eofInput with received := _ }, rfl⟩
  rcases input with ⟨input, read⟩
  have once := sets id 0 0 false input [] read
  rw [clientSetup_calls tables targetFine port argsFine id 0 0 false read,
    if_neg (Nat.not_lt_of_le large)] at once
  cases once

end RoundTrip

theorem targetText_host : TargetText "host".toList where
  line := by decide
  bar := by decide
  colons := by decide

theorem argsText_quoted : ArgsText "\":| ".toList where
  line := by decide
  bars := by decide
  colons := by decide

theorem setup_roundTrip_quoted :
    ∃ line, clientSetup (some "host".toList) (some ((7 : Nat) : Int))
        (some "\":| ".toList) = .ok line ∧
      SetsUp { target := false, tables := asciiTables } line
        (.client "host".toList ((7 : Nat) : Int) "\":| ".toList) :=
  (setup_roundTrip asciiTables targetText_host argsText_quoted (by omega)).1

/-- The port `2^31` is no integer of C, and a zero cuts off the arguments. -/
theorem largePort_unset :
    (∃ line, clientSetup (some "host".toList) (some ((2147483648 : Nat) : Int))
        (some "\":| ".toList) = .ok line ∧
      ¬ SetsUp { target := false, tables := asciiTables } line
        (.client "host".toList ((2147483648 : Nat) : Int) "\":| ".toList)) ∧
    ArgsText ['a', Char.ofNat 0, 'b'] ∧
      pluginSetup (.target ['a', Char.ofNat 0, 'b']) ≠ .target (encode ['a', Char.ofNat 0, 'b']) :=
  ⟨⟨_, clientSetup_body _ _ _,
      not_setsUp_of_large asciiTables targetText_host argsText_quoted (by omega)⟩,
    ⟨by decide, by decide, by decide⟩, by decide⟩

end Controller
end Ipbench
