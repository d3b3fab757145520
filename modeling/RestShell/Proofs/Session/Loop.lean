import RestShell.Proofs.Session.History
import RestShell.Proofs.Session.Styling

/-! The loop of a session as a run over its readings. Each reading before the loop ends is
attended to once, in order: a line goes to the history and is run, a failure is told. The loop
ends with the input, at a line that quits, which is one and the same in every session, or at a
failure behind as many as it passes over. -/

namespace RestShell

namespace Outcome

/-- Steps for operands end no session. -/
theorem each_goes_on {step : Session → String → Except ShellError (Session × List Notice)}
    (s : Session) (operands : List String) : (each step s operands).result ≠ .ok .quit := by
  induction operands generalizing s with
  | nil => nofun
  | cons operand rest ih =>
    cases hs : step s operand with
    | ok r =>
      obtain ⟨s', notices⟩ := r
      rw [each_cons_of_ok hs]
      exact ih s'
    | error e =>
      rw [each_cons_of_error hs]
      nofun

end Outcome

namespace Session
variable {w : World} {s t : Session} {a : Arguments}

section Quitting

/-- A line that leaves the shell. What was captured, and how things are shown, does not matter for
it. -/
def Quits (line : String) : Prop :=
  ∃ words a, splitWords line = .ok words ∧ Arguments.read [] false true words = .ok a ∧
    a.help = false ∧ a.verb = some "quit"

/-- A line quits just when the session reads it as the command to. -/
theorem quits_iff_reads (s : Session) (line : String) :
    Quits line ↔ ∃ a, s.Reads line a ∧ a.help = false ∧ a.verb = some "quit" := by
  constructor
  · rintro ⟨words, a, hw, hread, hhelp, hv⟩
    obtain ⟨b, hb, color, formatted, invert, verbose, rfl⟩ :=
      Arguments.read_command hread hv (by decide) s.data
    exact ⟨_, ⟨words, hw, hb⟩, hhelp, hv⟩
  · rintro ⟨a, ⟨words, hw, hread⟩, hhelp, hv⟩
    obtain ⟨b, hb, color, formatted, invert, verbose, rfl⟩ :=
      Arguments.read_command hread hv (by decide) []
    exact ⟨words, _, hw, hb, hhelp, hv⟩

theorem command_quits_iff (w : World) (s : Session) (verb : String) (operands : List String) :
    (s.command w verb operands).result = .ok .quit ↔ verb = "quit" := by
  unfold command
  split
  · refine iff_of_false ?_ (by decide)
    unfold set
    split
    · nofun
    · exact Outcome.each_goes_on s operands
  · exact iff_of_false (Outcome.each_goes_on s _) (by decide)
  · exact iff_of_false (Outcome.each_goes_on s _) (by decide)
  · refine iff_of_false ?_ (by decide)
    unfold changePlace
    split <;> nofun
  · exact iff_of_false nofun (by decide)
  · exact iff_of_true rfl rfl
  · exact iff_of_false nofun (by decide)
  · refine iff_of_false ?_ (by decide)
    unfold runProgram
    split
    · nofun
    · split <;> nofun
  · exact iff_of_false nofun (by decide)
  · rename_i hquit _ _ _
    exact iff_of_false nofun hquit

theorem send_goes_on (w : World) (s : Session) (verb : String) (a : Arguments)
    (summarize : Bool) : (s.send w verb a summarize).result ≠ .ok .quit := by
  rcases send_cases w s verb a summarize with ⟨e, -, he⟩ | ⟨t, e, -, -, he⟩ |
    ⟨t, path, -, -, he⟩ <;> rw [he] <;> nofun

theorem runArguments_quits_iff (w : World) (s : Session) (a : Arguments) (summarize : Bool) :
    (s.runArguments w a summarize).result = .ok .quit ↔
      a.help = false ∧ a.verb = some "quit" := by
  cases kind a with
  | help hhelp =>
    rw [runArguments_of_help hhelp, hhelp]
    exact iff_of_false nofun nofun
  | silent hhelp hs =>
    obtain ⟨status, notices, he⟩ := runNothing_eq s
    rw [runArguments_of_silent hhelp hs, he]
    exact iff_of_false nofun fun h => absurd (hs.eq_empty h.2) (by decide)
  | http hhelp hv hh =>
    rw [runArguments_of_http hhelp hv hh]
    refine iff_of_false (send_goes_on w s _ a summarize) fun h => ?_
    obtain rfl := Option.some.inj (hv.symm.trans h.2)
    cases hh
  | command hhelp hv hne hh =>
    rw [runArguments_of_command hhelp hv hne hh, Outcome.finished_result, command_quits_iff, hv]
    simp [hhelp]

theorem report_quits_iff (o : Outcome) : (report o).flow = .quit ↔ o.result = .ok .quit := by
  unfold report
  split
  · rename_i flow hflow
    rw [hflow]
    exact ⟨fun h => congrArg _ h, fun h => Except.ok.inj h⟩
  · rename_i e he
    rw [he]
    exact iff_of_false nofun nofun

/-- Only a line that quits ends the session that runs it, whatever came before and whatever
becomes of other lines. -/
theorem runLine_quits_iff (w : World) (s : Session) (line : String) :
    (s.runLine w line).flow = .quit ↔ Quits line := by
  rw [quits_iff_reads s]
  rcases runLine_reads w s line with ⟨a, ha⟩ | ⟨hn, e, he⟩
  · rw [runLine_of_reads w ha, report_quits_iff, runArguments_quits_iff]
    refine ⟨fun h => ⟨a, ha, h⟩, ?_⟩
    rintro ⟨b, hb, h⟩
    rwa [ha.unique hb]
  · rw [he, report_quits_iff]
    refine iff_of_false nofun ?_
    rintro ⟨a, ha, -⟩
    exact hn a ha

end Quitting

section Attending

/-- What a session is and showed after some readings. -/
abbrev Shown := Session × List Notice

/-- Attends to one reading behind its prompt: a line goes to the history and is run, a failure is
told and nothing else. -/
def attend (w : World) (s : Session) : Reading → Shown
  | .line text =>
    let line := lineText text
    let step := (s.remember line).runLine w line
    (step.session, .prompt s.prompt :: step.notices)
  | .failure fault => (s, [.prompt s.prompt, failureNotice fault])

theorem attend_line (w : World) (s : Session) (text : String) :
    s.attend w (.line text) =
      (((s.remember (lineText text)).runLine w (lineText text)).session,
        .prompt s.prompt :: ((s.remember (lineText text)).runLine w (lineText text)).notices) := rfl

/-- Attends to some readings, each once and in order. -/
def attendAll (w : World) : Session → List Reading → Shown
  | s, [] => (s, [])
  | s, r :: rest =>
    let x := s.attend w r
    let y := attendAll w x.1 rest
    (y.1, x.2 ++ y.2)

theorem attendAll_singleton (w : World) (s : Session) (r : Reading) :
    s.attendAll w [r] = s.attend w r := by
  simp only [attendAll, List.append_nil]

end Attending

section Stopping

/-- Why a loop ends. -/
inductive Ending where
  | exhausted
  | quit
  | broken
deriving DecidableEq, Repr

/-- What an ending adds to what was attended to: at the end of the input an empty line behind a
last prompt, and a failed status where the input is broken. -/
def Ending.close : Ending → Shown → Shown
  | .exhausted, (s, notices) => (s, notices ++ [.prompt s.prompt, .message ""])
  | .quit, x => x
  | .broken, (s, notices) => (s.withStatus 1, notices)

def failures (readings : List Reading) : Nat :=
  readings.countP fun
    | .line _ => false
    | .failure _ => true

@[simp] theorem failures_nil : failures [] = 0 := rfl

@[simp] theorem failures_line (text : String) (rest : List Reading) :
    failures (.line text :: rest) = failures rest := by
  simp [failures]

@[simp] theorem failures_failure (fault : InputFault) (rest : List Reading) :
    failures (.failure fault :: rest) = failures rest + 1 := by
  simp [failures]

@[simp] theorem failures_append (before after : List Reading) :
    failures (before ++ after) = failures before + failures after := List.countP_append

/-- Readings that no loop ends at which passes over so many failures. -/
structure Passed (spare : Nat) (readings : List Reading) : Prop where
  lines : ∀ text, .line text ∈ readings → ¬ Quits (lineText text)
  failures : failures readings ≤ spare

/-- Where a loop ends that passes over so many failures: what it read until then, what it leaves
unread, and why it ended. -/
inductive Stops (spare : Nat) : List Reading → List Reading → Ending → Prop where
  | exhausted {done : List Reading} : Passed spare done → Stops spare done [] .exhausted
  | quit {before rest : List Reading} {text : String} : Passed spare before →
      Quits (lineText text) → Stops spare (before ++ [.line text]) rest .quit
  | broken {before rest : List Reading} {fault : InputFault} : Passed spare before →
      failures before = spare → Stops spare (before ++ [.failure fault]) rest .broken

variable {spare : Nat} {done rest done' rest' before after readings : List Reading}
  {ending ending' : Ending} {text : String}

theorem Passed.nil (spare : Nat) : Passed spare [] where
  lines _ h := by cases h
  failures := Nat.zero_le spare

theorem Passed.line (h : Passed spare readings) (hq : ¬ Quits (lineText text)) :
    Passed spare (.line text :: readings) where
  lines other hmem := by
    rcases List.mem_cons.1 hmem with he | hmem
    · rwa [Reading.line.inj he]
    · exact h.lines other hmem
  failures := by simpa using h.failures

theorem Passed.failure (h : Passed spare readings) (fault : InputFault) :
    Passed (spare + 1) (.failure fault :: readings) where
  lines other hmem := by
    rcases List.mem_cons.1 hmem with he | hmem
    · cases he
    · exact h.lines other hmem
  failures := by simpa using h.failures

theorem Passed.of_append (h : Passed spare (before ++ after)) : Passed spare before where
  lines text hmem := h.lines text (List.mem_append_left after hmem)
  failures := by
    have hcount := h.failures
    rw [failures_append] at hcount
    omega

theorem Stops.line (h : Stops spare done rest ending) (hq : ¬ Quits (lineText text)) :
    Stops spare (.line text :: done) rest ending := by
  cases h with
  | exhausted hp => exact .exhausted (hp.line hq)
  | quit hp hquit => exact .quit (hp.line hq) hquit
  | broken hp hcount => exact .broken (hp.line hq) (by simpa using hcount)

theorem Stops.failure (h : Stops spare done rest ending) (fault : InputFault) :
    Stops (spare + 1) (.failure fault :: done) rest ending := by
  cases h with
  | exhausted hp => exact .exhausted (hp.failure fault)
  | quit hp hquit => exact .quit (hp.failure fault) hquit
  | broken hp hcount => exact .broken (hp.failure fault) (by simpa using hcount)

/-- No loop ends before the last of what it reads. -/
theorem Stops.passed (h : Stops spare done rest ending) (hdone : done = before ++ after)
    (hafter : after ≠ []) : Passed spare before := by
  have hinit (init : List Reading) (last : Reading) (he : init ++ [last] = before ++ after) :
      init = before ++ after.dropLast := by
    have hlast := congrArg List.dropLast he
    rwa [List.dropLast_concat, List.dropLast_append_of_ne_nil hafter] at hlast
  cases h with
  | exhausted hp => exact Passed.of_append (hdone ▸ hp)
  | quit hp _ => exact Passed.of_append (hinit _ _ hdone ▸ hp)
  | broken hp _ => exact Passed.of_append (hinit _ _ hdone ▸ hp)

/-- A loop that goes on behind what it read has read all there is. -/
theorem Stops.rest_eq_nil (h : Stops spare done rest ending) (hp : Passed spare done) :
    rest = [] ∧ ending = .exhausted := by
  cases h with
  | exhausted _ => exact ⟨rfl, rfl⟩
  | @quit before rest text _ hq => exact absurd hq (hp.lines text (by simp))
  | @broken before rest fault _ hcount =>
    have hmore := hp.failures
    simp only [failures_append, failures_failure, failures_nil] at hmore
    omega

theorem Stops.eq_nil {more : List Reading} (h : Stops spare done rest ending)
    (h' : Stops spare (done ++ more) rest' ending') (hrest : rest = more ++ rest') :
    more = [] := by
  by_contra hmore
  have hnone : rest = [] := (h.rest_eq_nil (h'.passed rfl hmore)).1
  rw [hnone] at hrest
  exact hmore (List.append_eq_nil_iff.1 hrest.symm).1

theorem Stops.ending_eq (h : Stops spare done rest ending)
    (h' : Stops spare done' rest' ending') (hdone : done = done') : ending = ending' := by
  -- readings that no loop ends at are ended by the input only; else the last reading tells
  by_cases hp : Passed spare done
  · rw [(h.rest_eq_nil hp).2, (h'.rest_eq_nil (hdone ▸ hp)).2]
  · cases h with
    | exhausted hpassed => exact absurd hpassed hp
    | quit _ _ =>
      cases h' with
      | exhausted hpassed => exact absurd (hdone ▸ hpassed) hp
      | quit _ _ => rfl
      | broken _ _ =>
        have hlast := congrArg List.getLast? hdone
        simp at hlast
    | broken _ _ =>
      cases h' with
      | exhausted hpassed => exact absurd (hdone ▸ hpassed) hp
      | quit _ _ =>
        have hlast := congrArg List.getLast? hdone
        simp at hlast
      | broken _ _ => rfl

/-- An input has one place where the loop ends, and one reason to. -/
theorem Stops.unique (h : Stops spare done rest ending)
    (h' : Stops spare done' rest' ending') (hinput : done ++ rest = done' ++ rest') :
    done = done' ∧ rest = rest' ∧ ending = ending' := by
  rcases List.append_eq_append_iff.1 hinput with ⟨more, rfl, hrest⟩ | ⟨more, rfl, hrest⟩
  · obtain rfl := h.eq_nil h' hrest
    exact ⟨by simp, by simpa using hrest, h.ending_eq h' (by simp)⟩
  · obtain rfl := h'.eq_nil h hrest
    exact ⟨by simp, by simpa using hrest.symm, h.ending_eq h' (by simp)⟩

end Stopping

section Running

theorem Ending.close_append (ending : Ending) (s : Session) (first more : List Notice) :
    ending.close (s, first ++ more) =
      ((ending.close (s, more)).1, first ++ (ending.close (s, more)).2) := by
  cases ending with
  | exhausted => simp [close]
  | quit => rfl
  | broken => rfl

theorem readOn_quits (w : World) (s : Session) (restarted : Bool) {text : String}
    (hq : Quits (lineText text)) (rest : List Reading) :
    s.readOn w restarted (.line text :: rest) = s.attend w (.line text) := by
  have hflow := (runLine_quits_iff w (s.remember (lineText text)) (lineText text)).2 hq
  simp only [readOn, turn, hflow, decide_true, if_true, attend]

theorem readOn_line (w : World) (s : Session) (restarted : Bool) {text : String}
    (hq : ¬ Quits (lineText text)) (rest : List Reading) :
    s.readOn w restarted (.line text :: rest) =
      let x := s.attend w (.line text)
      let y := x.1.readOn w restarted rest
      (y.1, x.2 ++ y.2) := by
  have hflow := mt (runLine_quits_iff w (s.remember (lineText text)) (lineText text)).1 hq
  simp only [readOn, turn, hflow, decide_false, Bool.false_eq_true, if_false, attend]

theorem readOn_failure (w : World) (s : Session) (fault : InputFault) (rest : List Reading) :
    s.readOn w false (.failure fault :: rest) =
      let y := s.readOn w true rest
      (y.1, [.prompt s.prompt, failureNotice fault] ++ y.2) := rfl

/-- How many failures a loop still passes over. -/
def spare (restarted : Bool) : Nat := if restarted then 0 else 1

/-- A loop attends to what it reads until it ends, and to nothing else. -/
theorem readOn_attends (w : World) (s : Session) (restarted : Bool) (input : List Reading) :
    ∃ done rest ending, input = done ++ rest ∧ Stops (spare restarted) done rest ending ∧
      s.readOn w restarted input = ending.close (s.attendAll w done) := by
  -- on the input; a failure takes the flag and with it what the loop may still pass over
  induction input generalizing s restarted with
  | nil => exact ⟨[], [], .exhausted, rfl, .exhausted (.nil _), rfl⟩
  | cons r rest ih =>
    cases r with
    | line text =>
      by_cases hq : Quits (lineText text)
      · have hstops : Stops (spare restarted) ([] ++ [.line text]) rest .quit :=
          .quit (.nil _) hq
        refine ⟨[.line text], rest, .quit, rfl, hstops, ?_⟩
        rw [readOn_quits w s restarted hq, attendAll_singleton]
        rfl
      · obtain ⟨done, unread, ending, hrest, hstops, hread⟩ :=
          ih (s.attend w (.line text)).1 restarted
        refine ⟨.line text :: done, unread, ending, by rw [hrest]; rfl, hstops.line hq, ?_⟩
        rw [readOn_line w s restarted hq, attendAll, Ending.close_append]
        dsimp only
        rw [hread]
    | failure fault =>
      cases restarted with
      | true =>
        have hstops : Stops (spare true) ([] ++ [.failure fault]) rest .broken :=
          .broken (.nil _) rfl
        exact ⟨[.failure fault], rest, .broken, rfl, hstops, rfl⟩
      | false =>
        obtain ⟨done, unread, ending, hrest, hstops, hread⟩ := ih s true
        refine ⟨.failure fault :: done, unread, ending, by rw [hrest]; rfl,
          hstops.failure fault, ?_⟩
        rw [readOn_failure, attendAll, Ending.close_append, hread]
        rfl

end Running

section Recording

/-- What the history gets of some readings: each line that is not blank, without the end that it
was read with. -/
def journal (readings : List Reading) : Bytes :=
  readings.flatMap fun
    | .line text => recorded (lineText text)
    | .failure _ => []

/-- The history is left to the loop: it can be written whenever a line is read, and what a line
runs leaves it. -/
inductive Undisturbed (w : World) : Session → List Reading → Prop where
  | nil {s : Session} : Undisturbed w s []
  | line {s : Session} {text : String} {rest : List Reading} : s.Recordable →
      (s.attend w (.line text)).1.history = (s.remember (lineText text)).history →
      Undisturbed w (s.attend w (.line text)).1 rest → Undisturbed w s (.line text :: rest)
  | failure {s : Session} {rest : List Reading} (fault : InputFault) :
      Undisturbed w s rest → Undisturbed w s (.failure fault :: rest)

theorem attendAll_history {done : List Reading} (h : Undisturbed w s done) :
    (s.attendAll w done).1.history = s.history ++ journal done := by
  induction h with
  | nil => simp [attendAll, journal]
  | @line s text rest hrecordable hleft hrest ih =>
    have hjournal : journal (.line text :: rest) = recorded (lineText text) ++ journal rest := rfl
    rw [attendAll, ih, hleft, remember_history hrecordable, hjournal, List.append_assoc]
  | @failure s rest fault hrest ih =>
    have hjournal : journal (.failure fault :: rest) = journal rest := rfl
    rw [hjournal, ← ih]
    rfl

theorem attend_histfile (w : World) (s : Session) (r : Reading) :
    (s.attend w r).1.options.histfile = s.options.histfile := by
  cases r with
  | line text =>
    have hstep := runLine_histfile w (s.remember (lineText text)) (lineText text)
    rw [remember_options] at hstep
    rw [attend_line, hstep]
  | failure fault => rfl

/-- Which file the history is stays over all readings. -/
theorem attendAll_histfile (w : World) (s : Session) (done : List Reading) :
    (s.attendAll w done).1.options.histfile = s.options.histfile := by
  induction done generalizing s with
  | nil => rfl
  | cons r rest ih =>
    rw [attendAll, ih, attend_histfile]

theorem Ending.close_histfile (ending : Ending) (x : Shown) :
    (ending.close x).1.options.histfile = x.1.options.histfile := by
  cases ending <;> rfl

theorem Ending.close_history (ending : Ending) (x : Shown) :
    (ending.close x).1.history = x.1.history := by
  cases ending <;> rfl

end Recording

section Start

/-- What the initial words come to, if there are any. -/
def opened (w : World) (s : Session) : Option (List String) → Step
  | none => ⟨s, [], .next⟩
  | some words => s.runWords w words true

theorem opened_histfile (w : World) (s : Session) (words : Option (List String)) :
    (s.opened w words).session.options.histfile = s.options.histfile := by
  cases words with
  | none => rfl
  | some words => exact runWords_histfile w s words true

theorem start_of_opened {words : Option (List String)} (h : (s.opened w words).flow = .next)
    (input : List Reading) :
    s.start w words input =
      let y := (s.opened w words).session.readOn w false input
      (y.1, (s.opened w words).notices ++ y.2) := by
  cases words with
  | none => rfl
  | some words =>
    have hflow : (s.runWords w words true).flow = .next := h
    simp only [start, hflow, opened]

end Start

section Styles

theorem remember_restyled (h : s.Restyled t) (line : String) :
    (s.remember line).Restyled (t.remember line) := by
  obtain ⟨color, formatted, verbose, invert, rfl⟩ := h
  unfold remember
  split
  · exact ⟨color, formatted, verbose, invert, rfl⟩
  · dsimp only
    split <;> exact ⟨color, formatted, verbose, invert, rfl⟩

theorem attend_restyled (w : World) (h : s.Restyled t) (r : Reading) :
    (s.attend w r).1.Restyled (t.attend w r).1 := by
  cases r with
  | line text =>
    have hstep := runLine_restyled w (remember_restyled h (lineText text)) (.same (lineText text))
    rw [attend_line, attend_line]
    exact hstep.session
  | failure fault => exact h

/-- Prompts have colours, and what a loop does has none. -/
theorem readOn_restyled (w : World) (h : s.Restyled t) (restarted : Bool)
    (input : List Reading) :
    (s.readOn w restarted input).1.Restyled (t.readOn w restarted input).1 := by
  induction input generalizing s t restarted with
  | nil => exact h
  | cons r rest ih =>
    cases r with
    | line text =>
      by_cases hq : Quits (lineText text)
      · rw [readOn_quits w s restarted hq, readOn_quits w t restarted hq]
        exact attend_restyled w h _
      · rw [readOn_line w s restarted hq, readOn_line w t restarted hq]
        exact ih (attend_restyled w h _) restarted
    | failure fault =>
      cases restarted with
      | true => exact h.withStatus 1
      | false => exact ih h true

end Styles

end Session
end RestShell
