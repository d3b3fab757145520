import RestShell.Proofs.Session.Dispatch

/-! What a command that fails leaves behind. A failed command keeps the session as it was,
but its operands take effect one by one: what was done before the one that fails
stays done. The same holds of the base URL of a request whose path is refused. -/

namespace RestShell

namespace Outcome
variable {step : Session → String → Except ShellError (Session × List Notice)}

@[simp] theorem preceded_session (notices : List Notice) (o : Outcome) :
    (o.preceded notices).session = o.session := rfl

@[simp] theorem preceded_result (notices : List Notice) (o : Outcome) :
    (o.preceded notices).result = o.result := rfl

theorem each_cons_of_ok {s s' : Session} {operand : String} {notices : List Notice}
    (h : step s operand = .ok (s', notices)) (rest : List String) :
    each step s (operand :: rest) = (each step s' rest).preceded notices := by
  simp only [each, h]

theorem each_cons_of_error {s : Session} {operand : String} {e : ShellError}
    (h : step s operand = .error e) (rest : List String) :
    each step s (operand :: rest) = fails s e := by
  simp only [each, h]

/-- What every step keeps is kept by all of them, whether one fails or not. -/
theorem each_invariant {P : Session → Prop}
    (hstep : ∀ s operand s' notices, P s → step s operand = .ok (s', notices) → P s')
    {s : Session} (hs : P s) (operands : List String) : P (each step s operands).session := by
  induction operands generalizing s with
  | nil => exact hs
  | cons operand rest ih =>
    cases h : step s operand with
    | ok r =>
      obtain ⟨s', notices⟩ := r
      rw [each_cons_of_ok h, preceded_session]
      exact ih (hstep s operand s' notices hs h)
    | error e =>
      rw [each_cons_of_error h]
      exact hs

/-- Steps that fail stop before the first operand that cannot be followed. -/
theorem each_error {s : Session} {operands : List String} {e : ShellError}
    (h : (each step s operands).result = .error e) :
    ∃ done bad rest, operands = done ++ bad :: rest ∧ (each step s done).result = .ok .next ∧
      (each step s operands).session = (each step s done).session ∧
      step (each step s done).session bad = .error e := by
  induction operands generalizing s with
  | nil => cases h
  | cons operand rest ih =>
    cases hs : step s operand with
    | ok r =>
      obtain ⟨s', notices⟩ := r
      rw [each_cons_of_ok hs, preceded_result] at h
      obtain ⟨done, bad, tail, rfl, hr, hsession, hbad⟩ := ih h
      refine ⟨operand :: done, bad, tail, rfl, ?_, ?_, ?_⟩
      · rw [each_cons_of_ok hs]
        exact hr
      · rw [each_cons_of_ok hs, each_cons_of_ok hs]
        exact hsession
      · rw [each_cons_of_ok hs]
        exact hbad
    | error e' =>
      rw [each_cons_of_error hs] at h ⊢
      cases h
      exact ⟨[], operand, rest, rfl, rfl, rfl, hs⟩

end Outcome

namespace Session

/-- All but the options and the base URL is the same. -/
def Reconfigured (s s' : Session) : Prop :=
  ∃ options base, s' = { s with options, client := { s.client with base } }

/-- All but the variables is the same. -/
def Rebound (s s' : Session) : Prop := ∃ vars, s' = { s with vars }

theorem Reconfigured.refl (s : Session) : Reconfigured s s := ⟨s.options, s.client.base, rfl⟩

theorem Reconfigured.trans {s₁ s₂ s₃ : Session} (h : Reconfigured s₁ s₂)
    (h' : Reconfigured s₂ s₃) : Reconfigured s₁ s₃ := by
  obtain ⟨o, b, rfl⟩ := h
  obtain ⟨o', b', rfl⟩ := h'
  exact ⟨o', b', rfl⟩

theorem setUrl_reconfigured {s s' : Session} {url : String} (h : s.setUrl url = .ok s') :
    Reconfigured s s' := by
  unfold setUrl Client.setBase at h
  cases hr : Url.read url with
  | ok base =>
    rw [hr] at h
    cases h
    exact ⟨_, base, rfl⟩
  | error e =>
    rw [hr] at h
    cases h

theorem setOption_reconfigured {s s' : Session} {name : String} {v : Json.Value}
    (h : s.setOption name v = .ok s') : Reconfigured s s' := by
  unfold setOption at h
  split at h
  · split at h
    · cases h
      exact ⟨_, s.client.base, rfl⟩
    · cases h
  · split at h
    · exact setUrl_reconfigured h
    · cases h

theorem setOptions_reconfigured {s s' : Session} {pairs : List (String × Json.Value)}
    (h : pairs.foldlM (fun s e => s.setOption e.1 e.2) s = .ok s') : Reconfigured s s' := by
  induction pairs generalizing s with
  | nil =>
    cases h
    exact .refl _
  | cons pair rest ih =>
    rw [List.foldlM_cons] at h
    cases hp : s.setOption pair.1 pair.2 with
    | ok next =>
      rw [hp] at h
      exact (setOption_reconfigured hp).trans (ih h)
    | error e =>
      rw [hp] at h
      cases h

theorem setting_reconfigured {s s' : Session} {operand : String} {notices : List Notice}
    (h : s.setting operand = .ok (s', notices)) : Reconfigured s s' := by
  unfold setting at h
  cases hp : (Parameter.add s.data operand []).mapError ShellError.line with
  | error e =>
    rw [hp] at h
    cases h
  | ok pairs =>
    rw [hp] at h
    cases hf : pairs.foldlM (fun s (e : String × Json.Value) => s.setOption e.1 e.2) s with
    | error e =>
      simp only [bind, Except.bind, hf] at h
      cases h
    | ok next =>
      simp only [bind, Except.bind, hf] at h
      cases h
      exact setOptions_reconfigured hf

theorem envEntry_rebound {s s' : Session} {operand : String} {notices : List Notice}
    (h : s.envEntry operand = .ok (s', notices)) : Rebound s s' := by
  unfold envEntry at h
  split at h
  · split at h
    · cases h
      exact ⟨_, rfl⟩
    · cases h
      exact ⟨s.vars, rfl⟩
  · split at h
    · cases h
      exact ⟨_, rfl⟩
    · cases h
  · cases h
    exact ⟨s.vars, rfl⟩

theorem set_reconfigured (s : Session) (operands : List String) :
    Reconfigured s (s.set operands).session := by
  unfold set
  split
  · exact .refl s
  · exact Outcome.each_invariant (fun _ _ _ _ hs h => hs.trans (setting_reconfigured h))
      (.refl s) operands

theorem env_rebound (s : Session) (operands : List String) :
    Rebound s (s.env operands).session := by
  rw [env, Outcome.preceded_session]
  refine Outcome.each_invariant ?_ ⟨s.vars, rfl⟩ _
  rintro s₁ operand s₂ notices ⟨vars, rfl⟩ h
  obtain ⟨vars', rfl⟩ := envEntry_rebound h
  exact ⟨vars', rfl⟩

/-- Looking at captured values and removing them cannot fail. -/
theorem captured_ne_error (s : Session) (operands : List String) (e : ShellError) :
    (s.captured operands).result ≠ .error e := by
  intro h
  rw [captured, Outcome.preceded_result] at h
  obtain ⟨done, bad, rest, -, -, -, hbad⟩ := Outcome.each_error h
  unfold dataEntry at hbad
  split at hbad <;> cases hbad

/-- How a command may fail after it changed the session, what it leaves and why it failed. -/
inductive Halted (s : Session) (a : Arguments) : Session → ShellError → Prop where
  /-- Settings are made up to the first one that cannot be. -/
  | set {done rest : List String} {bad : String} {e : ShellError} :
      a.verb = some "set" → a.operands = done ++ bad :: rest → done ≠ [] →
      (s.set done).result = .ok .next → (s.set done).session.setting bad = .error e →
      Reconfigured s (s.set done).session → Halted s a (s.set done).session e
  /-- Variables are changed up to the first one that is to be added and is not captured. -/
  | env {done rest : List String} {bad : String} {e : ShellError} :
      a.verb = some "env" →
      (if a.operands = [] then s.vars.keys else a.operands) = done ++ bad :: rest → done ≠ [] →
      (s.env done).result = .ok .next → (s.env done).session.envEntry bad = .error e →
      Rebound s (s.env done).session → Halted s a (s.env done).session e
  /-- The base URL of a request is taken over before its path is refused. -/
  | url {verb url : String} {s' : Session} {e : Path.OutOfBounds} :
      a.verb = some verb → isHttpVerb verb = true → a.url = some url → s.setUrl url = .ok s' →
      s'.place.resolve (a.path.getD "") = .error e → Reconfigured s s' → Halted s a s' (.path e)

theorem Halted.frame {s s' : Session} {a : Arguments} {e : ShellError} (h : Halted s a s' e) :
    Reconfigured s s' ∨ Rebound s s' := by
  cases h with
  | set _ _ _ _ _ hf => exact .inl hf
  | env _ _ _ _ _ hf => exact .inr hf
  | url _ _ _ _ _ hf => exact .inl hf

variable {s : Session} {a : Arguments} {e : ShellError}

theorem set_error (hv : a.verb = some "set") (h : (s.set a.operands).result = .error e) :
    (s.set a.operands).session = s ∨ Halted s a (s.set a.operands).session e := by
  by_cases hn : a.operands = []
  · rw [set, if_pos hn]
    exact .inl rfl
  · rw [set, if_neg hn] at h ⊢
    obtain ⟨done, bad, rest, ho, hr, hs, hbad⟩ := Outcome.each_error h
    rw [hs]
    by_cases hd : done = []
    · rw [hd]
      exact .inl rfl
    · have hset : s.set done = Outcome.each setting s done := if_neg hd
      rw [← hset] at hr hbad ⊢
      exact .inr (.set hv ho hd hr hbad (set_reconfigured s done))

theorem env_error (hv : a.verb = some "env") (h : (s.env a.operands).result = .error e) :
    (s.env a.operands).session = s ∨ Halted s a (s.env a.operands).session e := by
  rw [env, Outcome.preceded_result] at h
  rw [env, Outcome.preceded_session]
  obtain ⟨done, bad, rest, ho, hr, hs, hbad⟩ := Outcome.each_error h
  rw [hs]
  by_cases hd : done = []
  · rw [hd]
    exact .inl rfl
  · have henv : s.env done = (Outcome.each envEntry s done).preceded [.message "ENV:"] := by
      rw [env, if_neg hd]
    have hsession : (Outcome.each envEntry s done).session = (s.env done).session := by
      rw [henv]
      rfl
    have hresult : (s.env done).result = .ok .next := by
      rw [henv]
      exact hr
    rw [hsession] at hbad ⊢
    exact .inr (.env hv ho hd hresult hbad (env_rebound s done))

theorem changePlace_error {operands : List String}
    (h : (s.changePlace operands).result = .error e) :
    (s.changePlace operands).session = s := by
  unfold changePlace at h ⊢
  cases hp : s.place.enter (operands.headD "") with
  | ok place =>
    rw [hp] at h
    cases h
  | error e' => rfl

theorem runProgram_error {w : World} {operands : List String}
    (h : (s.runProgram w operands).result = .error e) :
    (s.runProgram w operands).session = s := by
  unfold runProgram at h ⊢
  cases operands with
  | nil => rfl
  | cons program rest =>
    cases hp : w.programs s.files (program :: rest) with
    | ok r =>
      simp only [hp] at h
      cases h
    | error e' => rfl

theorem command_error {w : World} {verb : String} (hv : a.verb = some verb)
    (h : (s.command w verb a.operands).result = .error e) :
    (s.command w verb a.operands).session = s ∨
      Halted s a (s.command w verb a.operands).session e := by
  unfold command at h ⊢
  split at h
  · exact set_error hv h
  · exact env_error hv h
  · exact absurd h (captured_ne_error s _ e)
  · exact .inl (changePlace_error h)
  · cases h
  · cases h
  · cases h
  · exact .inl (runProgram_error h)
  · cases h
  · exact .inl rfl

theorem send_error {w : World} {verb : String} {summarize : Bool} (hv : a.verb = some verb)
    (hh : isHttpVerb verb = true) (h : (s.send w verb a summarize).result = .error e) :
    (s.send w verb a summarize).session = s ∨
      Halted s a (s.send w verb a summarize).session e := by
  rcases send_cases w s verb a summarize with ⟨e', -, he⟩ | ⟨t, e', hu, hp, he⟩ |
    ⟨t, path, -, -, he⟩ <;> rw [he] at h ⊢
  · exact .inl rfl
  · cases h
    unfold withUrl at hu
    split at hu
    · rename_i url hurl
      exact .inr (.url hv hh hurl hu hp (setUrl_reconfigured hu))
    · cases hu
      exact .inl rfl
  · cases h

theorem runArguments_error {w : World} {summarize : Bool}
    (h : (s.runArguments w a summarize).result = .error e) :
    (s.runArguments w a summarize).session = s ∨
      Halted s a (s.runArguments w a summarize).session e := by
  cases kind a with
  | help hhelp =>
    rw [runArguments_of_help hhelp] at h
    cases h
  | silent hhelp hs =>
    obtain ⟨status, notices, he⟩ := runNothing_eq s
    rw [runArguments_of_silent hhelp hs, he] at h
    cases h
  | http hhelp hv hh =>
    rw [runArguments_of_http hhelp hv hh] at h ⊢
    exact send_error hv hh h
  | command hhelp hv hne hh =>
    rw [runArguments_of_command hhelp hv hne hh] at h ⊢
    rw [Outcome.finished_result] at h
    rw [Outcome.finished_of_error h]
    exact command_error hv h

/-- A session as it starts, in a world where every request is answered with one mapping. -/
def fresh : Session where
  options := { url := "http://api.test", histfile := "history" }
  client := { base := ⟨"http", "api.test", 80, "/", "", "", ""⟩ }

def answering : World where
  transport := fun _ _ => .ok
    ⟨200, [("content-type", ["application/json"])], Text.bytes "\x7b\"id\":\"x\"\x7d", ⟨0⟩⟩

/-- The fresh session after a request of which one value was kept for the next ones. -/
def learned : Session :=
  { fresh with
    client := { fresh.client with sent := [⟨"GET", "http://api.test/",
      [("Content-Type", "application/json"), ("Accept", "application/json")], none⟩] }
    vars := [("token", .string "x")]
    data := [("token", .string "x")] }

end Session
end RestShell
