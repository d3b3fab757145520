import RestShell.Session.Line

/-! Where a line goes. It is refused before it is understood, or it asks for help, says nothing,
is a request or a command of the shell; and a request is refused for its base URL or its path,
or goes out. What any of these does is said once here. -/

namespace RestShell

/-- A command of the shell that ended well leaves the status at 0. -/
def Outcome.finished (o : Outcome) : Outcome :=
  match o.result with
  | .ok _ => { o with session := o.session.withStatus 0 }
  | .error _ => o

namespace Outcome
variable {o : Outcome}

theorem finished_of_ok {flow : Flow} (h : o.result = .ok flow) :
    o.finished = { o with session := o.session.withStatus 0 } := by
  simp only [finished, h]

theorem finished_of_error {e : ShellError} (h : o.result = .error e) : o.finished = o := by
  simp only [finished, h]

theorem finished_result (o : Outcome) : o.finished.result = o.result := by
  unfold finished
  split <;> rfl

theorem finished_session (o : Outcome) :
    o.finished.session = o.session ∨ o.finished.session = o.session.withStatus 0 := by
  unfold finished
  split
  · exact .inr rfl
  · exact .inl rfl

end Outcome

namespace Session
variable {w : World} {s : Session} {a : Arguments} {summarize : Bool}

/-- What becomes of a request that goes out. -/
def exchanged (w : World) (s : Session) (verb path : String) (a : Arguments) (summarize : Bool) :
    Outcome :=
  let x := s.client.request w.transport verb path (s.requestOptions a)
  let after := conclude { s with client := x.client } a summarize x.outcome
  ⟨after.1, x.log.map .diagnostic ++ after.2, .ok .next⟩

section Requests
variable {t : Session} {verb : String}

theorem send_of_url_error {e : ShellError} (hu : s.withUrl a = .error e) :
    s.send w verb a summarize = .fails s e := by
  simp only [send, hu]

theorem send_of_path_error {e : Path.OutOfBounds} (hu : s.withUrl a = .ok t)
    (hp : t.place.resolve (a.path.getD "") = .error e) :
    s.send w verb a summarize = .fails t (.path e) := by
  simp only [send, hu, hp]

theorem send_of_resolved {path : String} (hu : s.withUrl a = .ok t)
    (hp : t.place.resolve (a.path.getD "") = .ok path) :
    s.send w verb a summarize = t.exchanged w verb path a summarize := by
  simp only [send, hu, hp, exchanged]

/-- A request is refused for its base URL, or for its path with the base URL taken over, or it
goes out. -/
theorem send_cases (w : World) (s : Session) (verb : String) (a : Arguments) (summarize : Bool) :
    (∃ e, s.withUrl a = .error e ∧ s.send w verb a summarize = .fails s e) ∨
    (∃ t e, s.withUrl a = .ok t ∧ t.place.resolve (a.path.getD "") = .error e ∧
      s.send w verb a summarize = .fails t (.path e)) ∨
    ∃ t path, s.withUrl a = .ok t ∧ t.place.resolve (a.path.getD "") = .ok path ∧
      s.send w verb a summarize = t.exchanged w verb path a summarize := by
  cases hu : s.withUrl a with
  | error e => exact .inl ⟨e, rfl, send_of_url_error hu⟩
  | ok t =>
    cases hp : t.place.resolve (a.path.getD "") with
    | error e => exact .inr (.inl ⟨t, e, rfl, hp, send_of_path_error hu hp⟩)
    | ok path => exact .inr (.inr ⟨t, path, rfl, hp, send_of_resolved hu hp⟩)

end Requests

section Lines

/-- Without a verb only the status may change, and that is no failure. -/
theorem runNothing_eq (s : Session) :
    ∃ status notices, s.runNothing = ⟨s.withStatus status, notices, .ok .next⟩ := by
  unfold runNothing
  split
  · exact ⟨s.status, [], rfl⟩
  · exact ⟨1, _, rfl⟩

/-- Arguments without help have a verb that says something, or they say nothing. -/
def Silent (a : Arguments) : Prop := a.verb = none ∨ a.verb = some ""

theorem Silent.eq_empty (h : Silent a) {verb : String} (hv : a.verb = some verb) : verb = "" := by
  rcases h with h | h <;> rw [h] at hv <;> cases hv
  rfl

theorem runArguments_of_help (h : a.help = true) :
    s.runArguments w a summarize = .shows s (.message usage) := if_pos h

theorem runArguments_of_silent (h : a.help = false) (hs : Silent a) :
    s.runArguments w a summarize = s.runNothing := by
  unfold runArguments
  rw [h]
  rcases hs with hv | hv <;> rw [hv] <;> rfl

theorem runArguments_of_http (h : a.help = false) {verb : String} (hv : a.verb = some verb)
    (hh : isHttpVerb verb = true) :
    s.runArguments w a summarize = s.send w verb a summarize := by
  have hne : verb ≠ "" := by
    rintro rfl
    cases hh
  unfold runArguments
  rw [h, hv]
  simp [hh]

theorem runArguments_of_command (h : a.help = false) {verb : String} (hv : a.verb = some verb)
    (hne : verb ≠ "") (hh : isHttpVerb verb = false) :
    s.runArguments w a summarize = (s.command w verb a.operands).finished := by
  unfold runArguments
  rw [h, hv]
  simp only [hh]
  rfl

/-- What arguments are: a call for help, nothing, a request, or a command of the shell. -/
inductive Kind (a : Arguments) : Prop where
  | help : a.help = true → Kind a
  | silent : a.help = false → Silent a → Kind a
  | http {verb : String} : a.help = false → a.verb = some verb → isHttpVerb verb = true → Kind a
  | command {verb : String} : a.help = false → a.verb = some verb → verb ≠ "" →
      isHttpVerb verb = false → Kind a

theorem kind (a : Arguments) : Kind a := by
  cases h : a.help with
  | true => exact .help h
  | false =>
    cases hv : a.verb with
    | none => exact .silent h (.inl hv)
    | some verb =>
      by_cases hne : verb = ""
      · exact .silent h (.inr (hne ▸ hv))
      · cases hh : isHttpVerb verb with
        | true => exact .http h hv hh
        | false => exact .command h hv hne hh

theorem report_session (o : Outcome) :
    (report o).session = o.session ∨ (report o).session = o.session.withStatus 1 := by
  unfold report
  split
  · exact .inl rfl
  · exact .inr rfl

/-- The arguments that a line has in this session, if it can be read. -/
def Reads (s : Session) (line : String) (a : Arguments) : Prop :=
  ∃ words, splitWords line = .ok words ∧ s.arguments words = .ok a

theorem runLine_of_reads (w : World) {line : String} (h : s.Reads line a) :
    s.runLine w line = report (s.runArguments w a true) := by
  obtain ⟨words, hw, ha⟩ := h
  rw [runLine, hw]
  simp only [runWords, run, ha]

/-- A line fails to split or to parse and leaves all but the status, or it has arguments. -/
theorem runLine_reads (w : World) (s : Session) (line : String) :
    (∃ a, s.Reads line a) ∨
      (∀ a, ¬ s.Reads line a) ∧ ∃ e, s.runLine w line = report (.fails s (.line e)) := by
  cases hw : splitWords line with
  | error fault =>
    refine .inr ⟨?_, .grammar fault, by rw [runLine, hw]; rfl⟩
    rintro a ⟨words, hwords, -⟩
    rw [hw] at hwords
    cases hwords
  | ok words =>
    cases ha : s.arguments words with
    | error e =>
      refine .inr ⟨?_, e, by simp only [runLine, hw, runWords, run, ha]⟩
      rintro a ⟨words', hwords, ha'⟩
      obtain rfl := Except.ok.inj (hw.symm.trans hwords)
      rw [ha] at ha'
      cases ha'
    | ok a => exact .inl ⟨a, words, hw, ha⟩

/-- A line has one reading. -/
theorem Reads.unique {line : String} {b : Arguments} (ha : s.Reads line a) (hb : s.Reads line b) :
    a = b := by
  obtain ⟨words, hw, ha⟩ := ha
  obtain ⟨words', hw', hb⟩ := hb
  obtain rfl := Except.ok.inj (hw.symm.trans hw')
  exact Except.ok.inj (ha.symm.trans hb)

end Lines
end Session
end RestShell
