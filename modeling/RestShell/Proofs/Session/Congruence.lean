import RestShell.Proofs.Line.Styling
import RestShell.Proofs.Session.Atomicity

/-! Sessions that a command of the shell takes for the same. It looks at few parts of a session:
the stores, the working path, the files. Sessions that agree there, and differ in a way that no
change of a setting ends, stay such sessions over a command, and it shows the same in both and
comes to the same; but for the two commands that list a session's settings. -/

namespace RestShell

open Json

/-- A relation of sessions that agree in all that commands look at, and that is kept by all that
commands do. -/
structure Congruence (R : Session → Session → Prop) : Prop where
  agree {s t : Session} : R s t → ∃ options client, t = { s with options, client }
  shell {s t : Session} : R s t → t.options.shell = s.options.shell
  turn {s t : Session} : R s t → ∀ on switch,
    R { s with options := s.options.turn on switch } { t with options := t.options.turn on switch }
  url {s t : Session} : R s t → ∀ url base,
    R { s with client := { s.client with base }, options := { s.options with url } }
      { t with client := { t.client with base }, options := { t.options with url } }
  others {s t : Session} : R s t → ∀ place vars data files status,
    R { s with place, vars, data, files, status } { t with place, vars, data, files, status }

/-- Outcomes that show the same and come to the same, of related sessions. -/
structure Outcome.Alike (R : Session → Session → Prop) (o p : Outcome) : Prop where
  session : R o.session p.session
  notices : p.notices = o.notices
  result : p.result = o.result

variable {R : Session → Session → Prop}

namespace Congruence
variable {s t : Session}

theorem withStatus (hR : Congruence R) (h : R s t) (status : Nat) :
    R (s.withStatus status) (t.withStatus status) := by
  have h' := hR.others h s.place s.vars s.data s.files status
  obtain ⟨_, _, rfl⟩ := hR.agree h
  exact h'

theorem withVars (hR : Congruence R) (h : R s t) (vars : Assoc Value) :
    R { s with vars } { t with vars } := by
  have h' := hR.others h s.place vars s.data s.files s.status
  obtain ⟨_, _, rfl⟩ := hR.agree h
  exact h'

theorem withData (hR : Congruence R) (h : R s t) (data : Assoc Value) :
    R { s with data } { t with data } := by
  have h' := hR.others h s.place s.vars data s.files s.status
  obtain ⟨_, _, rfl⟩ := hR.agree h
  exact h'

theorem withPlace (hR : Congruence R) (h : R s t) (place : Location) :
    R { s with place } { t with place } := by
  have h' := hR.others h place s.vars s.data s.files s.status
  obtain ⟨_, _, rfl⟩ := hR.agree h
  exact h'

theorem withFiles (hR : Congruence R) (h : R s t) (files : Files) :
    R { s with files } { t with files } := by
  have h' := hR.others h s.place s.vars s.data files s.status
  obtain ⟨_, _, rfl⟩ := hR.agree h
  exact h'

end Congruence

/-- Steps over an operand that come to the same in related sessions. -/
abbrev AlikeStep (R : Session → Session → Prop) :
    Except ShellError (Session × List Notice) → Except ShellError (Session × List Notice) → Prop :=
  Matches fun r q => R r.1 q.1 ∧ q.2 = r.2

namespace Outcome
variable {s t : Session} {o p : Outcome}

theorem Alike.preceded (h : o.Alike R p) (notices : List Notice) :
    (o.preceded notices).Alike R (p.preceded notices) :=
  ⟨h.session, congrArg (notices ++ ·) h.notices, h.result⟩

theorem each_alike {step : Session → String → Except ShellError (Session × List Notice)}
    (hstep : ∀ {s t : Session} (operand : String), R s t →
      AlikeStep R (step s operand) (step t operand))
    (h : R s t) (operands : List String) :
    (each step s operands).Alike R (each step t operands) := by
  induction operands generalizing s t with
  | nil => exact ⟨h, rfl, rfl⟩
  | cons operand rest ih =>
    rcases (hstep operand h).exists_or with ⟨⟨s', shown⟩, ⟨t', shown'⟩, hs, ht, h', he⟩ |
      ⟨e, hs, ht⟩
    · obtain rfl : shown' = shown := he
      rw [each_cons_of_ok hs, each_cons_of_ok ht]
      exact (ih h').preceded shown'
    · rw [each_cons_of_error hs, each_cons_of_error ht]
      exact ⟨h, rfl, rfl⟩

theorem Alike.finished (hR : Congruence R) (h : o.Alike R p) : o.finished.Alike R p.finished := by
  obtain ⟨hs, hn, hr⟩ := h
  cases ho : o.result with
  | ok flow =>
    rw [finished_of_ok ho, finished_of_ok (hr.trans ho)]
    exact ⟨hR.withStatus hs 0, hn, hr⟩
  | error e =>
    rw [finished_of_error ho, finished_of_error (hr.trans ho)]
    exact ⟨hs, hn, hr⟩

end Outcome

namespace Session
variable {s t : Session}

theorem setUrl_alike (hR : Congruence R) (h : R s t) (url : String) :
    Matches R (s.setUrl url) (t.setUrl url) := by
  unfold setUrl Client.setBase
  cases Url.read url with
  | ok base => exact .ok (hR.url h url base)
  | error e => exact .error _

theorem setOption_alike (hR : Congruence R) (h : R s t) (name : String) (v : Value) :
    Matches R (s.setOption name v) (t.setOption name v) := by
  unfold setOption
  cases OptionSwitch.ofName? name with
  | some switch =>
    dsimp only
    cases flagOf? v with
    | some on => exact .ok (hR.turn h on switch)
    | none => exact .error _
  | none =>
    dsimp only
    split
    · exact setUrl_alike hR h _
    · exact .error _

theorem setOptions_alike (hR : Congruence R) (h : R s t) (pairs : List (String × Value)) :
    Matches R (pairs.foldlM (fun s e => s.setOption e.1 e.2) s)
      (pairs.foldlM (fun s e => s.setOption e.1 e.2) t) := by
  induction pairs generalizing s t with
  | nil => exact .ok h
  | cons pair rest ih =>
    rw [List.foldlM_cons, List.foldlM_cons]
    exact (setOption_alike hR h pair.1 pair.2).bind fun h' => ih h'

theorem setting_alike (hR : Congruence R) (operand : String) (h : R s t) :
    AlikeStep R (s.setting operand) (t.setting operand) := by
  have hdata : t.data = s.data := by
    obtain ⟨_, _, rfl⟩ := hR.agree h
    rfl
  unfold setting
  rw [hdata]
  refine (Matches.of_eq (fun _ => rfl) rfl).bind fun {pairs pairs'} he => ?_
  obtain rfl : pairs = pairs' := he
  exact (setOptions_alike hR h pairs).bind fun h' => .ok ⟨h', rfl⟩

theorem envEntry_alike (hR : Congruence R) (operand : String) (h : R s t) :
    AlikeStep R (s.envEntry operand) (t.envEntry operand) := by
  obtain ⟨options, client, rfl⟩ := hR.agree h
  unfold envEntry
  dsimp only
  split
  · split
    · exact .ok ⟨hR.withVars h _, rfl⟩
    · exact .ok ⟨h, rfl⟩
  · split
    · exact .ok ⟨hR.withVars h _, rfl⟩
    · exact .error _
  · exact .ok ⟨h, rfl⟩

theorem dataEntry_alike (hR : Congruence R) (operand : String) (h : R s t) :
    AlikeStep R (s.dataEntry operand) (t.dataEntry operand) := by
  obtain ⟨options, client, rfl⟩ := hR.agree h
  unfold dataEntry
  dsimp only
  split
  · split
    · exact .ok ⟨hR.withData h _, rfl⟩
    · exact .ok ⟨h, rfl⟩
  · exact .ok ⟨h, rfl⟩

theorem set_alike (hR : Congruence R) (h : R s t) (operands : List String) :
    (s.set operands).Alike R (t.set operands) := by
  unfold set
  split
  · exact ⟨h, rfl, rfl⟩
  · exact Outcome.each_alike (setting_alike hR) h operands

theorem env_alike (hR : Congruence R) (h : R s t) (operands : List String) :
    (s.env operands).Alike R (t.env operands) := by
  obtain ⟨options, client, rfl⟩ := hR.agree h
  unfold env
  exact (Outcome.each_alike (envEntry_alike hR) h _).preceded _

theorem captured_alike (hR : Congruence R) (h : R s t) (operands : List String) :
    (s.captured operands).Alike R (t.captured operands) := by
  obtain ⟨options, client, rfl⟩ := hR.agree h
  unfold captured
  exact (Outcome.each_alike (dataEntry_alike hR) h _).preceded _

theorem changePlace_alike (hR : Congruence R) (h : R s t) (operands : List String) :
    (s.changePlace operands).Alike R (t.changePlace operands) := by
  obtain ⟨options, client, rfl⟩ := hR.agree h
  unfold changePlace
  dsimp only
  split
  · exact ⟨hR.withPlace h _, rfl, rfl⟩
  · exact ⟨h, rfl, rfl⟩

theorem runProgram_alike (hR : Congruence R) (w : World) (h : R s t) (operands : List String) :
    (s.runProgram w operands).Alike R (t.runProgram w operands) := by
  obtain ⟨options, client, rfl⟩ := hR.agree h
  unfold runProgram
  dsimp only
  split
  · exact ⟨h, rfl, rfl⟩
  · split
    · exact ⟨h, rfl, rfl⟩
    · exact ⟨hR.withFiles h _, rfl, rfl⟩

/-- A command that lists no settings shows the same in related sessions, and leaves related
sessions. -/
theorem command_alike (hR : Congruence R) (w : World) (h : R s t) {verb : String}
    (hconfig : verb ≠ "config") (hdebug : verb ≠ "debug") (operands : List String) :
    (s.command w verb operands).Alike R (t.command w verb operands) := by
  unfold command
  split
  · exact set_alike hR h operands
  · exact env_alike hR h operands
  · exact captured_alike hR h operands
  · exact changePlace_alike hR h operands
  · exact absurd rfl hconfig
  · exact ⟨h, rfl, rfl⟩
  · exact ⟨h, rfl, rfl⟩
  · exact runProgram_alike hR w h operands
  · exact absurd rfl hdebug
  · exact ⟨h, rfl, rfl⟩

theorem runNothing_alike (hR : Congruence R) (h : R s t) :
    s.runNothing.Alike R t.runNothing := by
  unfold runNothing
  rw [hR.shell h]
  split
  · exact ⟨h, rfl, rfl⟩
  · exact ⟨hR.withStatus h 1, rfl, rfl⟩

theorem report_alike (hR : Congruence R) {o p : Outcome} (h : o.Alike R p) :
    R (report o).session (report p).session ∧ (report p).notices = (report o).notices := by
  obtain ⟨hs, hn, hr⟩ := h
  unfold report
  rw [hr, hn]
  split
  · exact ⟨hs, rfl⟩
  · exact ⟨hR.withStatus hs 1, rfl⟩

end Session
end RestShell
