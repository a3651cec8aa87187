import Ipbench.Controller.PluginHistory

namespace Ipbench
namespace Daemon

open Foundation Controller

/-!
# The plugin that LOAD asks for

`setup` takes the name from the front of the line behind LOAD, as far as the characters of
its pattern go, and the line has lost the white space at its end.  So the plugin of another
name may be asked for, and the module may have one from an earlier call.  A name that is
not found is reported in an error text of at most 254 bytes, which may end within a
character of the name.

The session and the module are put together through the events of the session: each call
of `load_plugin` is one of them.
-/

/-! ## The line -/

/-- The line with the command LOAD for a name, as it is read. -/
def loadLine (name : Text) : Text :=
  "LOAD".toList ++ ' ' :: (name ++ ['\n'])

/-- The name that `setup` takes from the line. -/
def requestedName (tables : CharTables) (name : Text) : Option Text :=
  (tables.matchCommand (loadArgument tables) (strip (loadLine name))).map Prod.snd

/-- The error of `load_plugin` for a name. -/
def notFound (name : Text) : ShuntError :=
  pluginError (literal "Can not find plugin") (cString name)

/-- What `load_plugin` raises, if it raises. -/
def loadFailure (directory : PluginDirectory) (shunt : Shunt) (name : Text) :
    Option ShuntError :=
  if (shunt.loadPlugin (some directory.namelist) name).isSome then none else some (notFound name)

/-- The input with the line, where the module answers for the name that is taken from it. -/
def SessionInput.load (input : SessionInput) (tables : CharTables) (directory : PluginDirectory)
    (shunt : Shunt) (name : Text) : SessionInput :=
  { input with
    received := .line (loadLine name)
    plugin := { input.plugin with
      load := (requestedName tables name).bind (loadFailure directory shunt) } }

/-- The module after an event of a session. -/
def shuntAfter (directory : PluginDirectory) (shunt : Shunt) : SessionEvent → Shunt
  | .loadPlugin name _ => (shunt.loadPlugin (some directory.namelist) name).getD shunt
  | _ => shunt

/-! ## The purpose -/

/-- No load succeeds, and the controller is told so if the connection can be written. -/
structure ReportsError (writable : Bool) (events : List SessionEvent) : Prop where
  failed : ∀ name, SessionEvent.loadPlugin name true ∉ events
  told : writable = true → ∃ errCode msg,
    (errCode = .localError ∨ errCode = .syntaxError) ∧ .sent (strStatus errCode msg) ∈ events

/-- A load succeeds, and the module has a plugin of exactly this name. -/
structure LoadsExactly (directory : PluginDirectory) (shunt : Shunt)
    (events : List SessionEvent) (name : Text) : Prop where
  succeeded : ∃ arg, SessionEvent.loadPlugin arg true ∈ events
  exactly : (events.foldl (shuntAfter directory) shunt).plugin.map Plugin.name = some name

/-- The line LOAD gets exactly the plugin it asks for, or an error. -/
def LineLoads (options : Options) (pids : Nat → Nat) (status process : Nat)
    (input : SessionInput) (directory : PluginDirectory) (shunt : Shunt) (name : Text) : Prop :=
  let events := (handle options pids status process .setup
    (input.load options.tables directory shunt name)).2
  LoadsExactly directory shunt events name ∨ ReportsError input.writable events

/-- After the calls for some names in one process, each of which did what it is for, a LOAD
gets exactly the plugin it asks for, or an error. -/
structure RequestedLoads (options : Options) (pids : Nat → Nat) (status process : Nat)
    (input : SessionInput) (directory : PluginDirectory) (names : List Text) (name : Text) :
    Prop where
  calls : ∀ earlier next later, names = earlier ++ next :: later →
    LoadsNamed directory (Shunt.initial.afterLoads directory earlier) next
  line : LineLoads options pids status process input directory
    (Shunt.initial.afterLoads directory names) name

/-! ## The line in the handlers -/

section Line

variable {tables : CharTables}

/-- The command is the word in front of the first blank. -/
theorem matchCommand_word {argument : Char → Bool} {text cmd arg : Text}
    (matched : tables.matchCommand argument text = some (cmd, arg)) :
    cmd = text.takeWhile tables.isWord ∧
      ∃ rest, text.dropWhile tables.isWord = ' ' :: rest := by
  unfold CharTables.matchCommand CharTables.matchWord at matched
  split at matched
  · cases matched
  · rename_i word found
    split at found
    · cases found
    · cases found
      split at matched
      · rename_i rest blank
        split at matched
        · cases matched
        · cases matched
          exact ⟨rfl, rest, blank⟩
      · cases matched

/-- The line begins with the first letter of its command, also without white space around. -/
theorem strip_loadLine (name : Text) :
    ∃ rest, strip (loadLine name) = 'L' :: rest ∧ 'L' :: rest <+: loadLine name := by
  have visible : isSpace 'L' = false := by decide
  have letters : loadLine name = 'L' :: ("OAD".toList ++ ' ' :: (name ++ ['\n'])) := rfl
  have start : (loadLine name).dropWhile isSpace = loadLine name := by
    rw [letters, List.dropWhile_cons_of_neg (by rw [visible]; decide)]
  have front : strip (loadLine name) <+: loadLine name := by
    rw [strip, start]
    exact List.rdropWhile_prefix _ _
  cases left : strip (loadLine name) with
  | nil =>
      rw [strip, start, List.rdropWhile_eq_nil_iff] at left
      have space := left 'L' List.mem_cons_self
      rw [visible] at space
      cases space
  | cons char rest =>
      rw [left] at front
      obtain ⟨tail, whole⟩ := front
      have first : char = 'L' := (List.cons.inj whole).1
      subst first
      exact ⟨rest, rfl, tail, whole⟩

theorem matchCommand_loadLine {argument : Char → Bool} {name cmd arg : Text}
    (matched : tables.matchCommand argument (strip (loadLine name)) = some (cmd, arg)) :
    cmd = "LOAD".toList := by
  obtain ⟨word, rest, blank⟩ := matchCommand_word matched
  obtain ⟨letters, line, tail, whole⟩ := strip_loadLine name
  rw [← line] at whole
  have parts : strip (loadLine name) = cmd ++ ' ' :: rest := by
    rw [word, ← blank, List.takeWhile_append_dropWhile]
  rw [parts, List.append_assoc, List.cons_append] at whole
  have command : ∀ char ∈ cmd, tables.isWord char = true := by
    rw [word]
    exact fun char => List.mem_takeWhile_imp
  have load : ∀ char ∈ "LOAD".toList, tables.isWord char = true :=
    tables.isWord_of_all (by decide)
  calc cmd = (cmd ++ ' ' :: (rest ++ tail)).takeWhile tables.isWord :=
        (CharTables.takeWhile_blank command).symm
    _ = (loadLine name).takeWhile tables.isWord := by rw [whole]
    _ = "LOAD".toList := CharTables.takeWhile_blank load

end Line

/-! ## The events of the line -/

section Events

variable {options : Options} {pids : Nat → Nat} {status process : Nat} {input : SessionInput}
  {directory : PluginDirectory} {shunt : Shunt} {name arg : Text}

theorem handle_loadLine :
    handle options pids status process .setup
        (input.load options.tables directory shunt name) =
      match options.tables.matchCommand (loadArgument options.tables)
          (strip (loadLine name)) with
      | none =>
          answer (input.load options.tables directory shunt name)
            [strStatus .syntaxError []] (.reading .setup, [])
      | some (cmd, arg) =>
          if cmd = "LOAD".toList then
            match (requestedName options.tables name).bind (loadFailure directory shunt) with
            | some failure =>
                after [.loadPlugin arg false]
                  (failed (input.load options.tables directory shunt name) [] failure)
            | none =>
                after [.loadPlugin arg true]
                  (answer (input.load options.tables directory shunt name)
                    [strStatus .ok []] (.reading .loaded, []))
          else
            answer (input.load options.tables directory shunt name)
              [strStatus .syntaxError []] (.reading .setup, []) := by
  obtain ⟨rest, line, _⟩ := strip_loadLine name
  -- No other word of the session begins with the letter.
  have other : ∀ {word : Text}, word.head? ≠ some 'L' → strip (loadLine name) ≠ word := by
    rintro word different rfl
    rw [line] at different
    exact different rfl
  have otherCommand : ∀ {word : Text}, word.head? ≠ some 'L' →
      matchNonspace (strip (loadLine name)) ≠ word := by
    rintro word different rfl
    rw [line, matchNonspace, List.takeWhile_cons_of_pos (by decide)] at different
    exact different rfl
  rw [handle, parseCommonOpts]
  change (if matchNonspace (strip (loadLine name)) = "HELP".toList then _ else
    if matchNonspace (strip (loadLine name)) = "STATUS".toList then _ else
      setup options status (pids process) (input.load options.tables directory shunt name)
        (strip (loadLine name))) = _
  rw [if_neg (otherCommand (by decide)), if_neg (otherCommand (by decide)), setup, leaving,
    if_neg (other (by decide)), if_neg (other (by decide))]
  rfl

theorem answer_events (input : SessionInput) (texts : List Text) (outcome : Outcome) :
    (answer input texts (outcome, [])).2 =
      if input.writable then texts.map SessionEvent.sent else [] := by
  rw [answer]
  cases input.writable with
  | true => exact List.append_nil _
  | false => rfl

theorem answer_quiet {texts : List Text} {outcome : Outcome} {loaded : Bool} :
    SessionEvent.loadPlugin arg loaded ∉ (answer input texts (outcome, [])).2 := by
  rw [answer_events]
  intro member
  split at member
  · obtain ⟨text, _, impossible⟩ := List.mem_map.mp member
    cases impossible
  · cases member

theorem answer_shunt (texts : List Text) (outcome : Outcome) :
    (answer input texts (outcome, [])).2.foldl (shuntAfter directory) shunt = shunt := by
  rw [answer_events]
  split
  · induction texts with
    | nil => rfl
    | cons text rest inductionHypothesis => exact inductionHypothesis
  · rfl

/-- The answer of an error, behind events that load nothing. -/
theorem reportsError_answer (input : SessionInput) {front : List SessionEvent}
    {errCode : StatusCode} {msg : List Text} (outcome : Outcome)
    (quiet : ∀ name, SessionEvent.loadPlugin name true ∉ front)
    (known : errCode = .localError ∨ errCode = .syntaxError) :
    ReportsError input.writable
      (front ++ (answer input [strStatus errCode msg] (outcome, [])).2) := by
  constructor
  · intro name member
    rcases List.mem_append.mp member with before | answered
    · exact quiet name before
    · exact answer_quiet answered
  · intro writable
    refine ⟨errCode, msg, known, List.mem_append_right _ ?_⟩
    rw [answer_events, if_pos writable]
    exact List.mem_singleton.mpr rfl

/-- Without a name for the pattern the line is an error. -/
theorem loadLine_unmatched (unmatched : requestedName options.tables name = none) :
    ReportsError input.writable (handle options pids status process .setup
      (input.load options.tables directory shunt name)).2 := by
  rw [handle_loadLine, Option.map_eq_none_iff.mp unmatched]
  exact reportsError_answer (input.load options.tables directory shunt name) _
    (fun _ => List.not_mem_nil) (Or.inr rfl)

/-- A name that the module has no plugin for is an error, if its text can be decoded. -/
theorem loadLine_failed (requested : requestedName options.tables name = some arg)
    (fails : (shunt.loadPlugin (some directory.namelist) arg).isSome = false) :
    (handle options pids status process .setup
      (input.load options.tables directory shunt name)).2 =
        .loadPlugin arg false ::
          (failed (input.load options.tables directory shunt name) [] (notFound arg)).2 := by
  obtain ⟨⟨cmd, arg⟩, matched, rfl⟩ := Option.map_eq_some_iff.mp requested
  rw [handle_loadLine, matched]
  dsimp only
  rw [if_pos (matchCommand_loadLine matched), requested, Option.bind_some, loadFailure, fails]
  rfl

theorem reportsError_failed (arg : Text) (failure : ShuntError) :
    ReportsError input.writable (.loadPlugin arg false ::
        (failed (input.load options.tables directory shunt name) [] failure).2) ↔
      (input.writable = true → failure.Readable) := by
  cases failure with
  | runtime detail =>
      have quiet : ∀ other, SessionEvent.loadPlugin other true ∉
          [SessionEvent.loadPlugin arg false, SessionEvent.notRunning] := by
        intro other member
        rcases List.mem_cons.mp member with same | same
        · cases same
        · cases List.mem_singleton.mp same
      refine iff_of_true ?_ fun _ => trivial
      exact reportsError_answer (input.load options.tables directory shunt name) _ quiet
        (Or.inl rfl)
  | undecodable =>
      constructor
      · intro reports writable
        obtain ⟨errCode, msg, _, member⟩ := reports.told writable
        cases List.mem_singleton.mp member
      · intro unwritable
        refine ⟨?_, fun writable => False.elim (unwritable writable)⟩
        intro other member
        cases List.mem_singleton.mp member

theorem loadLine_loaded (requested : requestedName options.tables name = some arg)
    (loads : (shunt.loadPlugin (some directory.namelist) arg).isSome = true) :
    (handle options pids status process .setup
      (input.load options.tables directory shunt name)).2 =
        .loadPlugin arg true :: (answer (input.load options.tables directory shunt name)
          [strStatus .ok []] (.reading .loaded, [])).2 := by
  obtain ⟨⟨cmd, arg⟩, matched, rfl⟩ := Option.map_eq_some_iff.mp requested
  rw [handle_loadLine, matched]
  dsimp only
  rw [if_pos (matchCommand_loadLine matched), requested, Option.bind_some, loadFailure, loads]
  rfl

/-- The plugin is of the name that the module is asked for, or else the one before; and where
there is none, the connection learns of the error only if its text can be decoded. -/
theorem lineLoads_iff :
    LineLoads options pids status process input directory shunt name ↔
      ∀ arg, requestedName options.tables name = some arg →
        let known := if arg ∈ directory.names then some arg else shunt.plugin.map Plugin.name
        (∀ other, known = some other → other = name) ∧
          (known = none → input.writable = true → (notFound arg).Readable) := by
  unfold LineLoads
  cases requested : requestedName options.tables name with
  | none =>
      refine iff_of_true (Or.inr (loadLine_unmatched requested)) ?_
      intro arg impossible
      cases impossible
  | some arg =>
      have returns := loadPlugin_isSome directory shunt arg
      have named := loadPlugin_name directory shunt arg
      cases loads : (shunt.loadPlugin (some directory.namelist) arg).isSome with
      | false =>
          rw [loads] at returns
          have absent : (if arg ∈ directory.names then some arg
              else shunt.plugin.map Plugin.name) = none := by
            by_contra present
            exact Bool.false_ne_true (returns.mpr present)
          rw [loadLine_failed requested loads]
          constructor
          · rintro (exact | reports)
            · obtain ⟨other, member⟩ := exact.succeeded
              refine absurd member (List.not_mem_cons_of_ne_of_not_mem (by simp) ?_)
              cases notFound arg with
              | runtime detail =>
                  intro found
                  rcases List.mem_cons.mp found with same | answered
                  · cases same
                  · exact answer_quiet answered
              | undecodable => exact List.not_mem_nil
            · rintro _ ⟨⟩
              refine ⟨fun other present => ?_, fun _ => (reportsError_failed arg _).mp reports⟩
              rw [absent] at present
              cases present
          · exact fun reported =>
              Or.inr ((reportsError_failed arg _).mpr ((reported arg rfl).2 absent))
      | true =>
          rw [loadLine_loaded requested loads]
          have present := returns.mp loads
          constructor
          · rintro (exact | report)
            · rintro _ ⟨⟩
              refine ⟨fun known present => ?_, fun absent => False.elim (present absent)⟩
              have stored := exact.exactly
              rw [List.foldl_cons, answer_shunt, shuntAfter, named, present] at stored
              exact Option.some.inj stored
            · exact absurd List.mem_cons_self (report.failed arg)
          · intro exact
            left
            obtain ⟨known, present⟩ := Option.ne_none_iff_exists'.mp present
            refine ⟨⟨arg, List.mem_cons_self⟩, ?_⟩
            rw [List.foldl_cons, answer_shunt, shuntAfter, named, present,
              (exact arg rfl).1 known present]

end Events

/-! ## Main result -/

/-- Every call and the line do what they are for exactly if no call asks for a name that the
directory lacks after one that it has, and the last name that it has, up to the one that is
taken from the line, is the one in the line; where it has none, the error text must not end
within a character of the name, or nobody can be told. -/
theorem requestedLoads_iff (options : Options) (pids : Nat → Nat) (status process : Nat)
    (input : SessionInput) (directory : PluginDirectory) (names : List Text) (name : Text) :
    RequestedLoads options pids status process input directory names name ↔
      (∀ earlier next later, names = earlier ++ next :: later →
        next ∈ directory.names ∨ ∀ before ∈ earlier, before ∉ directory.names) ∧
      ∀ arg, requestedName options.tables name = some arg →
        (∀ known, directory.lastKnown (names ++ [arg]) = some known → known = name) ∧
        (directory.lastKnown (names ++ [arg]) = none → input.writable = true →
          (notFound arg).Readable) := by
  have call : ∀ earlier next,
      LoadsNamed directory (Shunt.initial.afterLoads directory earlier) next ↔
        next ∈ directory.names ∨ ∀ before ∈ earlier, before ∉ directory.names := by
    intro earlier next
    rw [loadsNamed_iff, afterLoads_none]
  have line : LineLoads options pids status process input directory
      (Shunt.initial.afterLoads directory names) name ↔
        ∀ arg, requestedName options.tables name = some arg →
          (∀ known, directory.lastKnown (names ++ [arg]) = some known → known = name) ∧
          (directory.lastKnown (names ++ [arg]) = none → input.writable = true →
            (notFound arg).Readable) := by
    rw [lineLoads_iff]
    simp only [afterLoads_name, directory.lastKnown_concat]
  constructor
  · rintro ⟨calls, loaded⟩
    refine ⟨?_, line.mp loaded⟩
    intro earlier next later whole
    exact (call earlier next).mp (calls earlier next later whole)
  · rintro ⟨known, loaded⟩
    refine ⟨?_, line.mpr loaded⟩
    intro earlier next later whole
    exact (call earlier next).mpr (known earlier next later whole)

def dummyDirectory : PluginDirectory where
  entries := [{ name := literal "dummy_target.so", file := some dummyTarget }]
  few := by decide
  distinct := by decide

/-- After a plugin is loaded, a name that the directory lacks returns with that plugin.  In a
process that has loaded nothing, the line for `dummy_target.x` loads `dummy_target`. -/
theorem absentName_loads :
    ¬ LoadsNamed dummyDirectory
        (Shunt.initial.afterLoads dummyDirectory ["dummy_target".toList]) "absent".toList ∧
      ∀ input, ¬ RequestedLoads { target := true, tables := asciiTables } id 0 0 input
        dummyDirectory [] "dummy_target.x".toList := by
  constructor
  · rw [loadsNamed_iff, afterLoads_none]
    decide
  · rintro input ⟨_, line⟩
    have requested : requestedName asciiTables "dummy_target.x".toList =
        some "dummy_target".toList := by
      decide
    have known := (lineLoads_iff.mp line _ requested).1 _ (if_pos (by decide))
    exact absurd known (by decide)

end Daemon
end Ipbench
