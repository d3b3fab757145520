import Mathlib.Logic.Relation
import RestShell.Proofs.Session.Separation
import RestShell.Session.Loop

/-! What a session is set to: its options and the base URL of its client. Whatever lines say, a
switch is turned, or another URL is taken over, in both places at once; what fails leaves the
settings as the changes before it made them. So what no such change breaks holds after any
lines: the client's base URL is what the URL of the options reads as, and the history stays
the same file. -/

namespace RestShell

open Json

/-- What a session is set to. -/
structure Settings where
  options : Options
  /-- The base URL of the client. -/
  base : Url
deriving DecidableEq

namespace Settings
variable {c d : Settings}

/-- One change: a switch is turned, or a URL that can be read is taken over. -/
inductive Change : Settings → Settings → Prop where
  | turn (c : Settings) (on : Bool) (switch : OptionSwitch) :
      Change c { c with options := c.options.turn on switch }
  | url (c : Settings) {url : String} {base : Url} : Url.read url = .ok base →
      Change c { options := { c.options with url }, base }

/-- Some changes, one after the other. -/
abbrev Changes : Settings → Settings → Prop := Relation.ReflTransGen Change

/-- The base URL is what the URL of the options reads as. -/
def InStep (c : Settings) : Prop := Url.read c.options.url = .ok c.base

theorem Change.inStep (h : Change c d) (hc : c.InStep) : d.InStep := by
  cases h with
  | turn on switch => cases switch <;> exact hc
  | url hread => exact hread

theorem Changes.inStep (h : Changes c d) (hc : c.InStep) : d.InStep := by
  induction h with
  | refl => exact hc
  | tail _ hstep ih => exact hstep.inStep ih

theorem Change.histfile (h : Change c d) : d.options.histfile = c.options.histfile := by
  cases h with
  | turn on switch => cases switch <;> rfl
  | url hread => rfl

theorem Changes.histfile (h : Changes c d) : d.options.histfile = c.options.histfile := by
  induction h with
  | refl => rfl
  | tail _ hstep ih => exact hstep.histfile.trans ih

end Settings

namespace Session
variable {w : World} {s s' : Session} {a : Arguments}

open Settings (Changes)

def settings (s : Session) : Settings := ⟨s.options, s.client.base⟩

section Commands

theorem setUrl_changes {url : String} (h : s.setUrl url = .ok s') :
    Changes s.settings s'.settings := by
  unfold setUrl Client.setBase at h
  cases hread : Url.read url with
  | error e =>
    rw [hread] at h
    cases h
  | ok base =>
    rw [hread] at h
    cases h
    exact .single (.url s.settings hread)

theorem setOption_changes {name : String} {v : Value} (h : s.setOption name v = .ok s') :
    Changes s.settings s'.settings := by
  unfold setOption at h
  split at h
  · split at h <;> cases h
    exact .single (.turn s.settings _ _)
  · split at h
    · exact setUrl_changes h
    · cases h

theorem setOptions_changes {pairs : List (String × Value)}
    (h : pairs.foldlM (fun s e => s.setOption e.1 e.2) s = .ok s') :
    Changes s.settings s'.settings := by
  induction pairs generalizing s with
  | nil =>
    cases h
    exact .refl
  | cons pair rest ih =>
    rw [List.foldlM_cons] at h
    obtain ⟨next, hnext, hrest⟩ := exists_of_bind_eq_ok h
    exact (setOption_changes hnext).trans (ih hrest)

theorem setting_changes {operand : String} {notices : List Notice}
    (h : s.setting operand = .ok (s', notices)) : Changes s.settings s'.settings := by
  unfold setting at h
  obtain ⟨pairs, -, h⟩ := exists_of_bind_eq_ok h
  obtain ⟨t, ht, h⟩ := exists_of_bind_eq_ok h
  cases h
  exact setOptions_changes ht

/-- Operands change the settings one by one, up to the first that cannot be followed. -/
theorem set_changes (s : Session) (operands : List String) :
    Changes s.settings (s.set operands).session.settings := by
  unfold set
  split
  · exact .refl
  · exact Outcome.each_invariant (P := fun t => Changes s.settings t.settings)
      (fun _ _ _ _ ht h => ht.trans (setting_changes h)) .refl operands

theorem command_changes (w : World) (s : Session) (verb : String) (operands : List String) :
    Changes s.settings (s.command w verb operands).session.settings := by
  rcases command_session w s verb operands with he | ⟨-, he⟩ | ⟨-, he⟩ | ⟨place, files, he⟩ <;>
    rw [he]
  · exact set_changes s operands
  · obtain ⟨vars, he⟩ := env_rebound s operands
    rw [he]
    exact .refl
  · obtain ⟨data, he⟩ := captured_stored s operands
    rw [he]
    exact .refl
  · exact .refl

end Commands

section Requests

theorem withUrl_changes (h : s.withUrl a = .ok s') : Changes s.settings s'.settings := by
  unfold withUrl at h
  split at h
  · exact setUrl_changes h
  · cases h
    exact .refl

theorem exchanged_options (w : World) (s : Session) (verb path : String) (a : Arguments)
    (summarize : Bool) : (s.exchanged w verb path a summarize).session.options = s.options := by
  rcases exchanged_cases w s verb path a summarize with
    ⟨client, status, files, he⟩ | ⟨client, kept, status, files, -, -, he⟩ <;> rw [he]
  obtain ⟨vars, data, hk⟩ := keepAll_stored ({ s with client, status } : Session) kept
  rw [hk]

/-- What goes out and what comes back change nothing of the settings. -/
theorem exchanged_settings (w : World) (s : Session) (verb path : String) (a : Arguments)
    (summarize : Bool) : (s.exchanged w verb path a summarize).session.settings = s.settings := by
  rw [settings, exchanged_options, exchanged_base]
  rfl

/-- A request takes its base URL over, whether its path is refused or not. -/
theorem send_changes (w : World) (s : Session) (verb : String) (a : Arguments)
    (summarize : Bool) :
    Changes s.settings (s.send w verb a summarize).session.settings := by
  rcases send_cases w s verb a summarize with ⟨e, -, he⟩ | ⟨t, e, hu, -, he⟩ |
    ⟨t, path, hu, -, he⟩ <;> rw [he]
  · exact .refl
  · exact withUrl_changes hu
  · rw [exchanged_settings]
    exact withUrl_changes hu

end Requests

section Lines

theorem runArguments_changes (w : World) (s : Session) (a : Arguments) (summarize : Bool) :
    Changes s.settings (s.runArguments w a summarize).session.settings := by
  cases kind a with
  | help hhelp =>
    rw [runArguments_of_help hhelp]
    exact .refl
  | silent hhelp hs =>
    obtain ⟨status, notices, he⟩ := runNothing_eq s
    rw [runArguments_of_silent hhelp hs, he]
    exact .refl
  | http hhelp hv hh =>
    rw [runArguments_of_http hhelp hv hh]
    exact send_changes w s _ a summarize
  | command hhelp hv hne hh =>
    rw [runArguments_of_command hhelp hv hne hh]
    rcases Outcome.finished_session (s.command w _ a.operands) with he | he <;> rw [he] <;>
      exact command_changes w s _ a.operands

theorem report_settings (o : Outcome) : (report o).session.settings = o.session.settings := by
  rcases report_session o with h | h <;> rw [h]
  rfl

theorem runWords_changes (w : World) (s : Session) (words : List String) (summarize : Bool) :
    Changes s.settings (s.runWords w words summarize).session.settings := by
  unfold runWords run
  rw [report_settings]
  cases s.arguments words with
  | ok a => exact runArguments_changes w s a summarize
  | error e => exact .refl

theorem runLine_changes (w : World) (s : Session) (line : String) :
    Changes s.settings (s.runLine w line).session.settings := by
  rcases runLine_reads w s line with ⟨a, ha⟩ | ⟨-, e, he⟩
  · rw [runLine_of_reads w ha, report_settings]
    exact runArguments_changes w s a true
  · rw [he, report_settings]
    exact .refl

theorem runLines_changes (w : World) (s : Session) (lines : List String) :
    Changes s.settings (s.runLines w lines).settings := by
  induction lines generalizing s with
  | nil => exact .refl
  | cons line rest ih => exact (runLine_changes w s line).trans (ih _)

end Lines

section Loop

theorem remember_settings (s : Session) (line : String) :
    (s.remember line).settings = s.settings := by
  unfold remember
  split
  · rfl
  · split <;> rfl

theorem turn_changes (w : World) (s : Session) (restarted : Bool) (r? : Option Reading) :
    Changes s.settings (s.turn w restarted r?).session.settings := by
  unfold turn
  split
  · exact .refl
  · rename_i text
    have hline := runLine_changes w (s.remember (lineText text)) (lineText text)
    rwa [remember_settings] at hline
  · split <;> exact .refl

theorem readOn_changes (w : World) (s : Session) (restarted : Bool) (input : List Reading) :
    Changes s.settings (s.readOn w restarted input).1.settings := by
  induction input generalizing s restarted with
  | nil => exact .refl
  | cons r rest ih =>
    have hturn := turn_changes w s restarted (some r)
    rw [readOn]
    dsimp only
    split
    · exact hturn
    · exact hturn.trans (ih _ _)

theorem start_changes (w : World) (s : Session) (words : Option (List String))
    (input : List Reading) : Changes s.settings (s.start w words input).1.settings := by
  unfold start
  cases words with
  | none => exact readOn_changes w s false input
  | some words =>
    have hfirst := runWords_changes w s words true
    dsimp only
    split
    · exact hfirst
    · exact hfirst.trans (readOn_changes w _ false input)

theorem launch_changes (w : World) (s : Session) (words : List String) (input : List Reading) :
    Changes s.settings (s.launch w words input).1.settings := by
  unfold launch
  split
  · exact start_changes w s (some words) input
  · exact runWords_changes w s words s.options.verbose

end Loop

/-- A session whose client has the base URL that its options say is one after any lines, and so it
is where it is launched behind them, with any words and over any input. -/
theorem runLines_inStep (w : World) {s : Session} (h : Url.read s.options.url = .ok s.client.base)
    (lines words : List String) (input : List Reading) :
    let t := s.runLines w lines
    let t' := (t.launch w words input).1
    Url.read t.options.url = .ok t.client.base ∧ Url.read t'.options.url = .ok t'.client.base := by
  intro t t'
  have ht : t.settings.InStep := (runLines_changes w s lines).inStep h
  exact ⟨ht, (launch_changes w t words input).inStep ht⟩

/-- The fresh session with another base URL, behind a line that failed. -/
def moved : Session :=
  { fresh with
    options := { fresh.options with url := "http://other.test/v2" }
    client := { fresh.client with base := ⟨"http", "other.test", 80, "/v2", "", "", ""⟩ }
    status := 1 }

/-- A setting behind one that was made fails, a path is refused behind its base URL, and a number
is taken over as a base URL before a bad one. -/
theorem runLines_inStep_refused :
    let lines := ["set url=https://api.test:8443/v1 bogus=1", "get .. -u http://other.test/v2"]
    let t := fresh.runLines answering lines
    let t' := (t.launch answering ["set", "url:=8080", "url=:"] []).1
    Url.read fresh.options.url = .ok fresh.client.base ∧
    (t.options.url = "http://other.test/v2" ∧ Url.read t.options.url = .ok t.client.base) ∧
    (t'.options.url = "8080" ∧ Url.read t'.options.url = .ok t'.client.base) := by
  have hfresh : Url.read fresh.options.url = .ok fresh.client.base := by decide +kernel
  have hmoved : fresh.runLines answering
      ["set url=https://api.test:8443/v1 bogus=1", "get .. -u http://other.test/v2"] = moved := by
    decide +kernel
  have hnumber :
      (moved.launch answering ["set", "url:=8080", "url=:"] []).1.options.url = "8080" := by
    decide +kernel
  have h := runLines_inStep answering hfresh
    ["set url=https://api.test:8443/v1 bogus=1", "get .. -u http://other.test/v2"]
    ["set", "url:=8080", "url=:"] []
  simp only [hmoved] at h ⊢
  exact ⟨hfresh, ⟨rfl, h.1⟩, hnumber, h.2⟩

end Session
end RestShell
