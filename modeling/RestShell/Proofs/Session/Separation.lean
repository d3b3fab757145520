import RestShell.Proofs.Line.Scan
import RestShell.Proofs.Session.Replies

/-! The stores of a session over its lines. A line does nothing to them, keeps the captures of a
JSON response, or follows the operands of one of two commands. No stored name ever has a
`=`, since the name of a capture ends there, and so each store changes only by what the line
says about it. -/

namespace RestShell

open Json

namespace Session
variable {s s' : Session} {a : Arguments} {k : String}

section Effects

def stores (s : Session) : Assoc Value × Assoc Value := (s.vars, s.data)

/-- What arguments may do to the stores: nothing, keep captures of a JSON response, or follow
the operands of one of two commands. -/
inductive Effect (w : World) (s : Session) (a : Arguments) (s' : Session) : Prop where
  | none : s'.stores = s.stores → Effect w s a s'
  | kept {t : Session} {kept : List (String × List Value)} : a.isHttp = true →
      AnsweredInJson w s s' → (∀ c ∈ kept, a.Captures c.1) → t.stores = s.stores →
      s'.stores = (t.keepAll kept).stores → Effect w s a s'
  | env : a.verb = some "env" → s'.stores = (s.env a.operands).session.stores → Effect w s a s'
  | data : a.verb = some "data" → s'.stores = (s.captured a.operands).session.stores →
      Effect w s a s'

theorem Effect.withStatus {w : World} (h : Effect w s a s') (status : Nat) :
    Effect w s a (s'.withStatus status) := by
  cases h with
  | none hs => exact .none hs
  | kept hh hj hk ht hs => exact .kept hh hj hk ht hs
  | env hv hs => exact .env hv hs
  | data hv hs => exact .data hv hs

theorem send_effect {w : World} {verb : String} {summarize : Bool} (hv : a.verb = some verb)
    (hh : isHttpVerb verb = true) : Effect w s a (s.send w verb a summarize).session := by
  rcases send_cases w s verb a summarize with ⟨e, -, he⟩ | ⟨t, e, hu, -, he⟩ |
    ⟨t, path, hu, -, he⟩ <;> rw [he]
  · exact .none rfl
  · obtain ⟨options, base, rfl⟩ := withUrl_reconfigured hu
    exact .none rfl
  · have hhttp : a.isHttp = true := by
      rw [Arguments.isHttp, hv]
      exact hh
    have hcases := exchanged_cases w t verb path a summarize
    obtain ⟨options, base, rfl⟩ := withUrl_reconfigured hu
    rcases hcases with ⟨client, status, files, hleft⟩ |
      ⟨client, kept, status, files, hjson, hcaptures, hkept⟩
    · exact .none (by rw [hleft]; rfl)
    · exact .kept (t := { s with options, client, status }) hhttp hjson hcaptures rfl
        (by rw [hkept]; rfl)

/-- What a command of the shell does to the session: it follows its operands, in the settings or in
one of the stores, or it changes the working path or the files at most. -/
theorem command_session (w : World) (s : Session) (verb : String) (operands : List String) :
    (s.command w verb operands).session = (s.set operands).session ∨
      (verb = "env" ∧ (s.command w verb operands).session = (s.env operands).session) ∨
      (verb = "data" ∧ (s.command w verb operands).session = (s.captured operands).session) ∨
      ∃ place files, (s.command w verb operands).session = { s with place, files } := by
  have hsame : ∃ place files, s = { s with place, files } := ⟨s.place, s.files, rfl⟩
  unfold command
  split
  · exact .inl rfl
  · exact .inr (.inl ⟨rfl, rfl⟩)
  · exact .inr (.inr (.inl ⟨rfl, rfl⟩))
  · unfold changePlace
    split
    · exact .inr (.inr (.inr ⟨_, s.files, rfl⟩))
    · exact .inr (.inr (.inr hsame))
  · exact .inr (.inr (.inr hsame))
  · exact .inr (.inr (.inr hsame))
  · exact .inr (.inr (.inr hsame))
  · unfold runProgram
    split
    · exact .inr (.inr (.inr hsame))
    · split
      · exact .inr (.inr (.inr hsame))
      · exact .inr (.inr (.inr ⟨s.place, _, rfl⟩))
  · exact .inr (.inr (.inr hsame))
  · exact .inr (.inr (.inr hsame))

/-- A command of the shell leaves the client but for its base URL. -/
theorem command_client (w : World) (s : Session) (verb : String) (operands : List String) :
    ∃ base, (s.command w verb operands).session.client = { s.client with base } := by
  rcases command_session w s verb operands with he | ⟨-, he⟩ | ⟨-, he⟩ | ⟨place, files, he⟩ <;>
    rw [he]
  · obtain ⟨options, base, he⟩ := set_reconfigured s operands
    exact ⟨base, by rw [he]⟩
  · obtain ⟨vars, he⟩ := env_rebound s operands
    exact ⟨_, by rw [he]⟩
  · obtain ⟨data, he⟩ := captured_stored s operands
    exact ⟨_, by rw [he]⟩
  · exact ⟨s.client.base, rfl⟩

theorem command_effect {w : World} {verb : String} (hv : a.verb = some verb) :
    Effect w s a (s.command w verb a.operands).session := by
  rcases command_session w s verb a.operands with he | ⟨rfl, he⟩ | ⟨rfl, he⟩ |
    ⟨place, files, he⟩ <;> rw [he]
  · obtain ⟨options, base, he⟩ := set_reconfigured s a.operands
    exact .none (by rw [he]; rfl)
  · exact .env hv rfl
  · exact .data hv rfl
  · exact .none rfl

theorem runArguments_effect (w : World) (s : Session) (a : Arguments) (summarize : Bool) :
    Effect w s a (s.runArguments w a summarize).session := by
  cases kind a with
  | help hhelp =>
    rw [runArguments_of_help hhelp]
    exact .none rfl
  | silent hhelp hs =>
    obtain ⟨status, notices, he⟩ := runNothing_eq s
    rw [runArguments_of_silent hhelp hs, he]
    exact .none rfl
  | http hhelp hv hh =>
    rw [runArguments_of_http hhelp hv hh]
    exact send_effect hv hh
  | command hhelp hv hne hh =>
    rw [runArguments_of_command hhelp hv hne hh]
    rcases Outcome.finished_session (s.command w _ a.operands) with he | he <;> rw [he]
    · exact command_effect hv
    · exact (command_effect hv).withStatus 0

/-- A line that can be read has the effect of its arguments; any other one fails. -/
theorem runLine_cases (w : World) (s : Session) (line : String) :
    (∃ a, s.Reads line a ∧ Effect w s a (s.runLine w line).session) ∨
      (s.runLine w line).session = s.withStatus 1 := by
  rcases runLine_reads w s line with ⟨a, ha⟩ | ⟨-, e, he⟩
  · refine .inl ⟨a, ha, ?_⟩
    rw [runLine_of_reads w ha]
    rcases report_session (s.runArguments w a true) with he | he <;> rw [he]
    · exact runArguments_effect w s a true
    · exact (runArguments_effect w s a true).withStatus 1
  · exact .inr (by rw [he]; rfl)

theorem Unmarked.of_stores (h : s.Unmarked) (hs : s'.stores = s.stores) : s'.Unmarked := by
  obtain ⟨hvars, hdata⟩ := Prod.mk.inj hs
  exact ⟨hvars ▸ h.vars, hdata ▸ h.data⟩

theorem Unmarked.runLine (h : s.Unmarked) (w : World) (line : String) :
    (s.runLine w line).session.Unmarked := by
  rcases runLine_cases w s line with ⟨a, ⟨words, -, ha⟩, he⟩ | he
  · cases he with
    | none hs => exact h.of_stores hs
    | kept _ _ hk ht hs =>
      refine Unmarked.of_stores ((h.of_stores ht).keepAll fun c hc => ?_) hs
      obtain ⟨path, hmem⟩ := hk c hc
      exact Arguments.captures_unmarked ha _ hmem
    | env _ hs => exact (h.env a.operands).of_stores hs
    | data _ hs => exact (h.captured a.operands).of_stores hs
  · rw [he]
    exact ⟨h.vars, h.data⟩

/-- The session after some lines. -/
def runLines (w : World) (s : Session) (lines : List String) : Session :=
  lines.foldl (fun s line => (s.runLine w line).session) s

theorem Unmarked.runLines (h : s.Unmarked) (w : World) (lines : List String) :
    (s.runLines w lines).Unmarked := by
  induction lines generalizing s with
  | nil => exact h
  | cons line rest ih => exact ih (h.runLine w line)

/-- A line with a command of the shell leaves what the command leaves, and tells in the status
whether it succeeded. -/
theorem runLine_command {w : World} {line verb : String} (hr : s.Reads line a)
    (hhelp : a.help = false) (hv : a.verb = some verb) (hne : verb ≠ "")
    (hh : isHttpVerb verb = false) :
    ∃ status,
      (s.runLine w line).session = (s.command w verb a.operands).session.withStatus status ∧
      (status = 0 ↔ ∃ flow, (s.command w verb a.operands).result = .ok flow) := by
  rw [runLine_of_reads w hr, runArguments_of_command hhelp hv hne hh]
  cases hresult : (s.command w verb a.operands).result with
  | ok flow =>
    rw [Outcome.finished_of_ok hresult, report, hresult]
    exact ⟨0, rfl, by simp⟩
  | error e =>
    rw [Outcome.finished_of_error hresult, report, hresult]
    exact ⟨1, rfl, by simp⟩

/-- Listing a store changes nothing. -/
theorem command_listing (w : World) (hs : s.Unmarked) {verb : String}
    (hv : verb = "env" ∨ verb = "data") : (s.command w verb []).session = s := by
  rcases hv with rfl | rfl
  · exact (env_nil hs).1
  · exact (captured_nil hs).1

theorem runLine_listing {w : World} {line verb : String} (hs : s.Unmarked) (hr : s.Reads line a)
    (hv : a.verb = some verb) (hlist : verb = "env" ∨ verb = "data") (ho : a.operands = []) :
    (s.runLine w line).session = s.withStatus (s.runLine w line).session.status := by
  by_cases hhelp : a.help = true
  · rw [runLine_of_reads w hr, runArguments_of_help hhelp]
    rfl
  · have hverb : verb ≠ "" ∧ isHttpVerb verb = false := by
      rcases hlist with rfl | rfl <;> decide
    obtain ⟨status, he, -⟩ :=
      runLine_command (w := w) hr (by simpa using hhelp) hv hverb.1 hverb.2
    rw [he, ho, command_listing w hs hlist]
    rfl

/-- One variable is added from the captured values, or there is none to add. -/
theorem env_add (s : Session) (k : String) :
    (∃ v, s.data.get? k = some v ∧
      (s.env ["+=" ++ k]).session = { s with vars := s.vars.put k v }) ∨
    ∃ e, (s.env ["+=" ++ k]).result = .error e := by
  have hminus : Text.dropLead? "-=" ("+=" ++ k) = none := by
    cases h : Text.dropLead? "-=" ("+=" ++ k) with
    | none => rfl
    | some name =>
      have hlead := congrArg String.toList (Text.dropLead?_eq_some_iff.1 h)
      simp at hlead
  have hplus : Text.dropLead? "+=" ("+=" ++ k) = some k := Text.dropLead?_eq_some_iff.2 rfl
  rw [env, if_neg (by simp), Outcome.preceded_session, Outcome.preceded_result]
  cases hv : s.data.get? k with
  | some v =>
    have hentry : s.envEntry ("+=" ++ k) =
        .ok ({ s with vars := s.vars.put k v }, [told k " += " v]) := by
      simp only [envEntry, hminus, hplus, hv]
    rw [Outcome.each_cons_of_ok hentry]
    exact .inl ⟨v, rfl, rfl⟩
  | none =>
    have hentry : s.envEntry ("+=" ++ k) = .error (.line (.unknownVariable k)) := by
      simp only [envEntry, hminus, hplus, hv]
    rw [Outcome.each_cons_of_error hentry]
    exact .inr ⟨_, rfl⟩

end Effects

section Separation

theorem Effect.data_changed {w : World} (h : Effect w s a s') (hs : s.Unmarked)
    (hk : s'.data.get? k ≠ s.data.get? k) :
    (a.isHttp = true ∧ (a.Captures k ∨ a.Captures (k ++ "+")) ∧ AnsweredInJson w s s') ∨
      (a.verb = some "data" ∧ "-=" ++ k ∈ a.operands) := by
  cases h with
  | none he => exact absurd (congrArg (fun p => p.2.get? k) he) hk
  | @kept t kept hh hj hcaptures ht he =>
    have hchange : (t.keepAll kept).data.get? k ≠ t.data.get? k := by
      rw [(Prod.mk.inj he).2, ← (Prod.mk.inj ht).2] at hk
      exact hk
    obtain ⟨c, hc, hname⟩ := keepAll_data_changed hchange
    have hcap : a.Captures c.1 := hcaptures c hc
    refine .inl ⟨hh, ?_, hj⟩
    rcases hname with hname | hname <;> rw [hname] at hcap
    · exact .inl hcap
    · exact .inr hcap
  | env hv he =>
    rw [(Prod.mk.inj he).2, env_data] at hk
    exact absurd rfl hk
  | data hv he =>
    rw [(Prod.mk.inj he).2] at hk
    refine .inr ⟨hv, ?_⟩
    by_cases ho : a.operands = []
    · rw [ho, (captured_nil hs).1] at hk
      exact absurd rfl hk
    · have hmem := captured_changed hk
      rwa [listed, if_neg ho] at hmem

theorem Effect.vars_changed {w : World} (h : Effect w s a s') (hs : s.Unmarked)
    (hk : s'.vars.get? k ≠ s.vars.get? k) :
    (a.isHttp = true ∧ a.Captures (k ++ "+") ∧ AnsweredInJson w s s') ∨
      (a.verb = some "env" ∧ ("-=" ++ k ∈ a.operands ∨ "+=" ++ k ∈ a.operands)) := by
  cases h with
  | none he => exact absurd (congrArg (fun p => p.1.get? k) he) hk
  | @kept t kept hh hj hcaptures ht he =>
    have hchange : (t.keepAll kept).vars.get? k ≠ t.vars.get? k := by
      rw [(Prod.mk.inj he).1, ← (Prod.mk.inj ht).1] at hk
      exact hk
    obtain ⟨c, hc, hname⟩ := keepAll_vars_changed hchange
    exact .inl ⟨hh, hname ▸ hcaptures c hc, hj⟩
  | env hv he =>
    rw [(Prod.mk.inj he).1] at hk
    refine .inr ⟨hv, ?_⟩
    by_cases ho : a.operands = []
    · rw [ho, (env_nil hs).1] at hk
      exact absurd rfl hk
    · have hmem := env_changed hk
      rwa [listed, if_neg ho] at hmem
  | data hv he =>
    rw [(Prod.mk.inj he).1, captured_vars] at hk
    exact absurd rfl hk

/-- The two stores of a session do not leak into each other, whatever lines were run before. A
captured value is changed by a capture of its name from a JSON response or by a line that
removes it, and a variable by a capture that is one too or by a line that names it. A
variable that is added has the captured value. Lists change nothing. -/
theorem runLine_stores (w : World) {start : Session} (hvars : start.vars = [])
    (hdata : start.data = []) (lines : List String) (line : String) :
    let s := start.runLines w lines
    let s' := (s.runLine w line).session
    (∀ k, s'.data.get? k ≠ s.data.get? k → ∃ a, s.Reads line a ∧
      ((a.isHttp = true ∧ (a.Captures k ∨ a.Captures (k ++ "+")) ∧ AnsweredInJson w s s') ∨
        (a.verb = some "data" ∧ "-=" ++ k ∈ a.operands))) ∧
    (∀ k, s'.vars.get? k ≠ s.vars.get? k → ∃ a, s.Reads line a ∧
      ((a.isHttp = true ∧ a.Captures (k ++ "+") ∧ AnsweredInJson w s s') ∨
        (a.verb = some "env" ∧ ("-=" ++ k ∈ a.operands ∨ "+=" ++ k ∈ a.operands)))) ∧
    (∀ a k, s.Reads line a → a.help = false → a.verb = some "env" → a.operands = ["+=" ++ k] →
      s'.status = 0 → ∃ v, s.data.get? k = some v ∧ s'.vars = s.vars.put k v ∧ s'.data = s.data) ∧
    (∀ a, s.Reads line a → a.verb = some "env" ∨ a.verb = some "data" → a.operands = [] →
      s' = s.withStatus s'.status) := by
  intro s s'
  have hstart : start.Unmarked := ⟨by simp [hvars, Assoc.keys], by simp [hdata, Assoc.keys]⟩
  have hs : s.Unmarked := hstart.runLines w lines
  refine ⟨fun k hk => ?_, fun k hk => ?_, fun a k hr hhelp hv ho hstatus => ?_,
    fun a hr hv ho => ?_⟩
  · rcases runLine_cases w s line with ⟨a, hr, he⟩ | he
    · exact ⟨a, hr, he.data_changed hs hk⟩
    · exact absurd (by unfold s'; rw [he]; rfl) hk
  · rcases runLine_cases w s line with ⟨a, hr, he⟩ | he
    · exact ⟨a, hr, he.vars_changed hs hk⟩
    · exact absurd (by unfold s'; rw [he]; rfl) hk
  · obtain ⟨status, he, hok⟩ := runLine_command (w := w) hr hhelp hv (by decide) (by decide)
    rw [ho] at he hok
    have hs' : s' = (s.env ["+=" ++ k]).session.withStatus status := he
    obtain ⟨flow, hflow⟩ := hok.1 (by rw [hs'] at hstatus; exact hstatus)
    rcases env_add s k with ⟨v, hv, henv⟩ | ⟨e, herror⟩
    · rw [hs', henv]
      exact ⟨v, hv, rfl, rfl⟩
    · have hresult : (s.env ["+=" ++ k]).result = .ok flow := hflow
      rw [herror] at hresult
      cases hresult
  · rcases hv with hv | hv
    · exact runLine_listing hs hr hv (.inl rfl) ho
    · exact runLine_listing hs hr hv (.inr rfl) ho

/-- The fresh session after a request of which one value was kept. -/
def informed : Session := { learned with vars := [] }

/-- A value that was kept from a response becomes a variable. -/
theorem runLine_stores_learned :
    let s := fresh.runLines answering ["get / -d token=id"]
    let s' := (s.runLine answering "env +=token").session
    (s.vars = [] ∧ s.data = [("token", .string "x")]) ∧
    (s'.vars = [("token", .string "x")] ∧ s'.data = [("token", .string "x")]) := by
  have hs : fresh.runLines answering ["get / -d token=id"] = informed := by decide +kernel
  have hvars : fresh.vars = [] := rfl
  have h := runLine_stores answering hvars rfl ["get / -d token=id"] "env +=token"
  simp only [hs] at h ⊢
  obtain ⟨-, -, hadd, -⟩ := h
  have hr : informed.Reads "env +=token" { verb := some "env", operands := ["+=token"] } :=
    ⟨["env", "+=token"], by decide +kernel, by decide +kernel⟩
  have hstatus : (informed.runLine answering "env +=token").session.status = 0 := by
    decide +kernel
  obtain ⟨v, hv, hvars, hdata⟩ := hadd _ "token" hr rfl rfl rfl hstatus
  cases hv
  exact ⟨⟨rfl, rfl⟩, hvars, hdata⟩

end Separation

end Session
end RestShell
