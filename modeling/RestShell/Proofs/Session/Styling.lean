import RestShell.Proofs.Session.Congruence
import RestShell.Proofs.Session.Separation

/-! Sessions that differ in how things are shown. Their colours, layout and logging are read by
the parser, the client and what presents a response, and by nothing that is sent, stored or
written: two such sessions stay two such sessions over any lines, also when the lines of one
have more switches of this kind. -/

namespace RestShell

theorem Client.request_verbose (T : Transport) (c : Client) (method path : String)
    (o : RequestOptions) (verbose : Bool) :
    (c.request T method path { o with verbose }).outcome = (c.request T method path o).outcome ∧
      (c.request T method path { o with verbose }).client = (c.request T method path o).client := by
  have hsent : c.compose method path { o with verbose } = c.compose method path o := by
    unfold compose requestHeaders requestQuery
    rfl
  unfold request
  rw [hsent]
  cases hT : T c.sent (c.compose method path o) with
  | error reason => simp only [hT, and_self]
  | ok reply => simp only [hT, and_self]

namespace Session

/-- All but what says how things are shown is the same. -/
def Restyled (s t : Session) : Prop :=
  ∃ color formatted verbose invert,
    t = { s with options := { s.options with color, formatted, verbose, invert } }

theorem Restyled.withStatus {s t : Session} (h : s.Restyled t) (status : Nat) :
    (s.withStatus status).Restyled (t.withStatus status) := by
  obtain ⟨_, _, _, _, rfl⟩ := h
  exact ⟨_, _, _, _, rfl⟩

end Session

/-- The outcomes of sessions that differ in how things are shown. -/
structure Outcome.Restyled (o p : Outcome) : Prop where
  session : o.session.Restyled p.session
  result : p.result = o.result

/-- The steps of sessions that differ in how things are shown. -/
structure Session.Step.Restyled (x y : Session.Step) : Prop where
  session : x.session.Restyled y.session
  flow : y.flow = x.flow

namespace Outcome

theorem Alike.restyled {o p : Outcome} (h : o.Alike Session.Restyled p) : o.Restyled p :=
  ⟨h.session, h.result⟩

theorem Restyled.finished {o p : Outcome} (h : o.Restyled p) : o.finished.Restyled p.finished := by
  obtain ⟨hs, hr⟩ := h
  cases ho : o.result with
  | ok flow =>
    rw [finished_of_ok ho, finished_of_ok (hr.trans ho)]
    exact ⟨hs.withStatus 0, hr⟩
  | error e =>
    rw [finished_of_error ho, finished_of_error (hr.trans ho)]
    exact ⟨hs, hr⟩

end Outcome

namespace Session
variable {w : World} {s t : Session} {a b : Arguments}

section Commands

/-- A setting that says how things are shown is changed in both, any other one alike. -/
theorem congruence_restyled : Congruence Restyled where
  agree h := by
    obtain ⟨_, _, _, _, rfl⟩ := h
    exact ⟨_, _, rfl⟩
  shell h := by
    obtain ⟨_, _, _, _, rfl⟩ := h
    rfl
  turn h on switch := by
    obtain ⟨_, _, _, _, rfl⟩ := h
    cases switch <;> exact ⟨_, _, _, _, rfl⟩
  url h url base := by
    obtain ⟨color, formatted, verbose, invert, rfl⟩ := h
    exact ⟨color, formatted, verbose, invert, rfl⟩
  others h place vars data files status := by
    obtain ⟨color, formatted, verbose, invert, rfl⟩ := h
    exact ⟨color, formatted, verbose, invert, rfl⟩

theorem command_restyled (w : World) (h : s.Restyled t) (verb : String) (operands : List String) :
    (s.command w verb operands).Restyled (t.command w verb operands) := by
  by_cases hconfig : verb = "config"
  · rw [hconfig]
    exact ⟨h, rfl⟩
  by_cases hdebug : verb = "debug"
  · rw [hdebug]
    exact ⟨h, rfl⟩
  exact (command_alike congruence_restyled w h hconfig hdebug operands).restyled

end Commands

section Responses

theorem Restyled.keep (h : s.Restyled t) (key : String) (values : List Json.Value) :
    (s.keep key values).Restyled (t.keep key values) := by
  obtain ⟨color, formatted, verbose, invert, rfl⟩ := h
  unfold Session.keep
  dsimp only
  split <;> exact ⟨color, formatted, verbose, invert, rfl⟩

theorem Restyled.keepAll (h : s.Restyled t) (kept : List (String × List Json.Value)) :
    (s.keepAll kept).Restyled (t.keepAll kept) := by
  induction kept generalizing s t with
  | nil => exact h
  | cons c rest ih => exact ih (h.keep c.1 c.2)

/-- What is written to a file has no style. -/
theorem redirectTo_restyled (h : s.Restyled t) (r : Redirect) (v : Json.Value) :
    (s.redirectTo r v).1.Restyled (t.redirectTo r v).1 := by
  obtain ⟨color, formatted, verbose, invert, rfl⟩ := h
  unfold redirectTo
  dsimp only
  split <;> exact ⟨color, formatted, verbose, invert, rfl⟩

theorem deliver_restyled (h : s.Restyled t) (hab : a.Restyled b) (failure : Option ClientError)
    (v : Json.Value) : (s.deliver a failure v).1.Restyled (t.deliver b failure v).1 := by
  obtain ⟨_, _, _, _, rfl⟩ := hab
  unfold deliver
  dsimp only
  split
  · exact redirectTo_restyled h _ v
  · exact h
  · exact h

theorem conclude_restyled (h : s.Restyled t) (hab : a.Restyled b) (summarize : Bool)
    (outcome : Except ClientError Response) :
    (s.conclude a summarize outcome).1.Restyled (t.conclude b summarize outcome).1 := by
  have hreceived : (s.received outcome).Restyled (t.received outcome) := h.withStatus _
  -- the part that is asked for is the same
  have hpart : wantsPart b = wantsPart a ∧ ∀ v, Projection.of v b.extract b.exclude b.captures =
      Projection.of v a.extract a.exclude a.captures := by
    obtain ⟨_, _, _, _, rfl⟩ := hab
    exact ⟨rfl, fun _ => rfl⟩
  cases answer a outcome with
  | none hr =>
    rw [conclude_of_none hr, conclude_of_none hr]
    exact deliver_restyled hreceived hab _ _
  | whole hr hw =>
    rw [conclude_of_whole hr hw, conclude_of_whole hr (hpart.1 ▸ hw)]
    exact deliver_restyled hreceived hab _ _
  | part hr hw hp =>
    rw [conclude_of_part hr hw hp, conclude_of_part hr (hpart.1 ▸ hw) ((hpart.2 _).trans hp)]
    exact deliver_restyled (hreceived.keepAll _) hab _ _
  | fault hr hw hp =>
    rw [conclude_of_fault hr hw hp, conclude_of_fault hr (hpart.1 ▸ hw) ((hpart.2 _).trans hp)]
    exact hreceived

/-- The same request goes out, and the same comes back of it. -/
theorem request_restyled (T : Transport) (h : s.Restyled t) (hab : a.Restyled b)
    (verb path : String) :
    let x := s.client.request T verb path (s.requestOptions a)
    let y := t.client.request T verb path (t.requestOptions b)
    y.outcome = x.outcome ∧ y.client = x.client := by
  obtain ⟨_, _, _, _, rfl⟩ := h
  obtain ⟨_, _, _, _, rfl⟩ := hab
  exact Client.request_verbose T s.client verb path (s.requestOptions a) _

theorem exchanged_restyled (w : World) (h : s.Restyled t) (hab : a.Restyled b)
    (verb path : String) (summarize : Bool) :
    (s.exchanged w verb path a summarize).Restyled (t.exchanged w verb path b summarize) := by
  obtain ⟨houtcome, hclient⟩ := request_restyled w.transport h hab verb path
  refine ⟨?_, rfl⟩
  unfold exchanged
  dsimp only
  rw [houtcome, hclient]
  refine conclude_restyled ?_ hab summarize _
  obtain ⟨color, formatted, verbose, invert, rfl⟩ := h
  exact ⟨color, formatted, verbose, invert, rfl⟩

theorem withUrl_restyled (h : s.Restyled t) (hab : a.Restyled b) :
    Matches Restyled (s.withUrl a) (t.withUrl b) := by
  obtain ⟨_, _, _, _, rfl⟩ := hab
  unfold withUrl
  dsimp only
  split
  · exact setUrl_alike congruence_restyled h _
  · exact .ok h

theorem send_restyled (w : World) (h : s.Restyled t) (hab : a.Restyled b) (verb : String)
    (summarize : Bool) :
    (s.send w verb a summarize).Restyled (t.send w verb b summarize) := by
  have hpath : b.path = a.path := by
    obtain ⟨_, _, _, _, rfl⟩ := hab
    rfl
  rcases (withUrl_restyled h hab).exists_or with ⟨s', t', hs, ht, h'⟩ | ⟨e, hs, ht⟩
  · have hresolve : t'.place.resolve (b.path.getD "") = s'.place.resolve (a.path.getD "") := by
      obtain ⟨_, _, _, _, rfl⟩ := h'
      rw [hpath]
    cases hp : s'.place.resolve (a.path.getD "") with
    | error e =>
      rw [send_of_path_error hs hp, send_of_path_error ht (hresolve.trans hp)]
      exact ⟨h', rfl⟩
    | ok path =>
      rw [send_of_resolved hs hp, send_of_resolved ht (hresolve.trans hp)]
      exact exchanged_restyled w h' hab verb path summarize
  · rw [send_of_url_error hs, send_of_url_error ht]
    exact ⟨h, rfl⟩

end Responses

section Lines

theorem runArguments_restyled (w : World) (h : s.Restyled t) (hab : a.Restyled b)
    (summarize : Bool) :
    (s.runArguments w a summarize).Restyled (t.runArguments w b summarize) := by
  have hsaid : b.help = a.help ∧ b.verb = a.verb ∧ b.operands = a.operands := by
    obtain ⟨_, _, _, _, rfl⟩ := hab
    exact ⟨rfl, rfl, rfl⟩
  obtain ⟨hhelp, hverb, hoperands⟩ := hsaid
  cases kind a with
  | help ha =>
    rw [runArguments_of_help ha, runArguments_of_help (hhelp.trans ha)]
    exact ⟨h, rfl⟩
  | silent ha hs =>
    have hsilent : Silent b := by rwa [Silent, hverb]
    rw [runArguments_of_silent ha hs, runArguments_of_silent (hhelp.trans ha) hsilent]
    exact (runNothing_alike congruence_restyled h).restyled
  | @http verb ha hv hh =>
    rw [runArguments_of_http ha hv hh,
      runArguments_of_http (hhelp.trans ha) (hverb.trans hv) hh]
    exact send_restyled w h hab verb summarize
  | @command verb ha hv hne hh =>
    rw [runArguments_of_command ha hv hne hh,
      runArguments_of_command (hhelp.trans ha) (hverb.trans hv) hne hh, hoperands]
    exact (command_restyled w h verb a.operands).finished

theorem report_restyled {o p : Outcome} (h : o.Restyled p) : (report o).Restyled (report p) := by
  obtain ⟨hs, hr⟩ := h
  unfold report
  rw [hr]
  split
  · exact ⟨hs, rfl⟩
  · exact ⟨hs.withStatus 1, rfl⟩

/-- Colour and layout are the defaults that words are read with. -/
theorem arguments_restyled (h : s.Restyled t) {words dressed : List String}
    (hd : Arguments.Dressed (words.flatMap unbundle) (dressed.flatMap unbundle)) :
    Matches Arguments.Restyled (s.arguments words) (t.arguments dressed) := by
  have hdata : t.data = s.data := by
    obtain ⟨_, _, _, _, rfl⟩ := h
    rfl
  unfold arguments Arguments.read
  rw [hdata]
  exact Arguments.scan_dressed hd ⟨_, _, false, false, rfl⟩

theorem runWords_restyled (w : World) (h : s.Restyled t) {words dressed : List String}
    (hd : Arguments.Dressed (words.flatMap unbundle) (dressed.flatMap unbundle))
    (summarize : Bool) :
    (s.runWords w words summarize).Restyled (t.runWords w dressed summarize) := by
  refine report_restyled ?_
  unfold run
  rcases (arguments_restyled h hd).exists_or with ⟨a, b, ha, hb, hab⟩ | ⟨e, hs, ht⟩
  · rw [ha, hb]
    exact runArguments_restyled w h hab summarize
  · rw [hs, ht]
    exact ⟨h, rfl⟩

/-- A line as it is, or with more switches that say how things are shown. -/
inductive Dressed : String → String → Prop where
  | same (line : String) : Dressed line line
  | more {line dressed : String} {words more : List String} : splitWords line = .ok words →
      splitWords dressed = .ok more →
      Arguments.Dressed (words.flatMap unbundle) (more.flatMap unbundle) → Dressed line dressed

theorem runLine_restyled (w : World) (h : s.Restyled t) {line dressed : String}
    (hd : Dressed line dressed) : (s.runLine w line).Restyled (t.runLine w dressed) := by
  cases hd with
  | same =>
    unfold runLine
    cases splitWords line with
    | ok words => exact runWords_restyled w h (.refl _) true
    | error fault => exact report_restyled ⟨h, rfl⟩
  | more hwords hmore hd =>
    simp only [runLine, hwords, hmore]
    exact runWords_restyled w h hd true

/-- How each of some lines goes on. -/
def flows (w : World) : Session → List String → List Flow
  | _, [] => []
  | s, line :: rest => (s.runLine w line).flow :: flows w (s.runLine w line).session rest

/-- Sessions that differ in how things are shown send, store and write the same over the same
lines and go on alike, and so they do where the lines of one have more switches of that kind. -/
theorem runLines_restyled (w : World) (h : s.Restyled t) {lines dressed : List String}
    (hd : List.Forall₂ Dressed lines dressed) :
    (s.runLines w lines).Restyled (t.runLines w dressed) ∧
      t.flows w dressed = s.flows w lines := by
  induction hd generalizing s t with
  | nil => exact ⟨h, rfl⟩
  | @cons line line' rest rest' hline hrest ih =>
    have hstep := runLine_restyled w h hline
    obtain ⟨hsession, hflows⟩ := ih hstep.session
    refine ⟨hsession, ?_⟩
    simp only [flows, hstep.flow, hflows]

/-- The fresh session with colours and a log. -/
def loud : Session :=
  { fresh with options := { fresh.options with color := true, verbose := true } }

/-- A request that logs, without colours and unformatted, learns what the plain one does. -/
theorem runLines_restyled_learned :
    fresh.Restyled loud ∧
    List.Forall₂ Dressed ["get / -d token+=id"] ["-v get / -C -d token+=id -r"] ∧
    learned.Restyled (loud.runLines answering ["-v get / -C -d token+=id -r"]) ∧
    loud.flows answering ["-v get / -C -d token+=id -r"] = [.next] := by
  have hloud : fresh.Restyled loud := ⟨true, true, true, false, rfl⟩
  have hwords : splitWords "get / -d token+=id" = .ok ["get", "/", "-d", "token+=id"] := by
    decide +kernel
  have hmore : splitWords "-v get / -C -d token+=id -r" =
      .ok ["-v", "get", "/", "-C", "-d", "token+=id", "-r"] := by
    decide +kernel
  have hdressed : Arguments.Dressed ["get", "/", "-d", "token+=id"]
      ["-v", "get", "/", "-C", "-d", "token+=id", "-r"] := by
    have hget : Item.ofWord "get" = .bare := by decide +kernel
    have hroot : Item.ofWord "/" = .bare := by decide +kernel
    have hdata : Item.ofWord "-d" = .valued .capture := by decide +kernel
    refine .add (s := .verbose) (by decide +kernel) (by simp [Switch.Styles]) ?_
    refine .word (by simp [hget]) (.word (by simp [hroot]) ?_)
    refine .add (s := .noColor) (by decide +kernel) (by simp [Switch.Styles]) ?_
    refine .valued "token+=id" hdata ?_
    exact .add (s := .raw) (by decide +kernel) (by simp [Switch.Styles]) .nil
  have hlines : List.Forall₂ Dressed ["get / -d token+=id"] ["-v get / -C -d token+=id -r"] :=
    .cons (.more hwords hmore hdressed) .nil
  obtain ⟨hsession, hflows⟩ := runLines_restyled answering hloud hlines
  have hlearned : fresh.runLines answering ["get / -d token+=id"] = learned := by decide +kernel
  have hnext : fresh.flows answering ["get / -d token+=id"] = [.next] := by decide +kernel
  rw [hlearned] at hsession
  exact ⟨hloud, hlines, hsession, hflows.trans hnext⟩

end Lines

end Session
end RestShell
