import RestShell.Proofs.Line.Parameters
import RestShell.Proofs.Session.Separation

/-! The requests that lines send. A line sends one request or none: one just when it can be read,
asks for no help, has a verb that is sent, a base URL that is good if it has one, and a path
that resolves. Its body holds the parameters of the line over the variables of the session,
each name once, since the variables never hold one twice. -/

namespace RestShell

open Json

theorem Payload.encode_object {contentType : String} (h : ¬ NamesForm contentType)
    (fields : Assoc Value) :
    (Payload.value (.object fields)).encode (.ofType (some contentType)) =
      some (Text.bytes (Value.object fields).text) := by
  rw [encode_eq_iff]
  by_cases hj : NamesJson contentType
  · exact .json _ hj
  · exact .rest _ hj nofun nofun fun hf => absurd hf h

namespace Client

/-- A mapping goes out as its JSON text, whatever the content type is, unless it is a form's. -/
theorem compose_object (c : Client) {method : String} (path : String) {o : RequestOptions}
    {fields : Assoc Value} (ho : o.body = some (.value (.object fields)))
    (hget : (c.compose method path o).method ≠ "GET")
    (hhead : (c.compose method path o).method ≠ "HEAD") :
    ∃ contentType, (c.compose method path o).headers.get? "Content-Type" = some contentType ∧
      (¬ Payload.NamesForm contentType →
        (c.compose method path o).body = some (Text.bytes (Value.object fields).text)) := by
  have hmethod : (c.compose method path o).method = effectiveMethod method := by
    simp only [compose]
  rw [hmethod] at hget hhead
  have hb : ¬ isBodiless (effectiveMethod method) = true := by simp [isBodiless, hget, hhead]
  obtain ⟨contentType, hc⟩ := requestHeaders_contentType c o
  rw [compose_headers]
  refine ⟨contentType, hc, fun hf => ?_⟩
  rw [compose_body path hb hc, ho, Option.bind_some]
  exact Payload.encode_object hf fields

end Client

namespace Session
variable {w : World} {s s' : Session} {a : Arguments}

section Variables

theorem distinct_keepAll (h : s.vars.Distinct) (kept : List (String × List Value)) :
    (s.keepAll kept).vars.Distinct := by
  induction kept generalizing s with
  | nil => exact h
  | cons c rest ih =>
    refine ih (s := s.keep c.1 c.2) ?_
    rcases keep_cases s c.1 c.2 with he | ⟨v, name, -, he⟩ | ⟨v, he⟩ <;> rw [he]
    · exact h
    · exact h.put name v
    · exact h

theorem distinct_env (h : s.vars.Distinct) (operands : List String) :
    (s.env operands).session.vars.Distinct := by
  refine Outcome.each_invariant (P := fun s => s.vars.Distinct) ?_ h _
  intro t operand t' notices ht hstep
  rcases envEntry_cases hstep with rfl | ⟨name, -, rfl⟩ | ⟨name, v, -, -, rfl⟩
  · exact ht
  · exact ht.erase name
  · exact ht.put name v

/-- No line makes a variable occur twice. -/
theorem distinct_runLine (h : s.vars.Distinct) (w : World) (line : String) :
    (s.runLine w line).session.vars.Distinct := by
  rcases runLine_cases w s line with ⟨a, -, he⟩ | he
  · cases he with
    | none hs =>
      rw [(Prod.mk.inj hs).1]
      exact h
    | @kept t kept _ _ _ ht hs =>
      rw [(Prod.mk.inj hs).1]
      exact distinct_keepAll ((Prod.mk.inj ht).1 ▸ h) kept
    | env _ hs =>
      rw [(Prod.mk.inj hs).1]
      exact distinct_env h a.operands
    | data _ hs =>
      rw [(Prod.mk.inj hs).1, captured_vars]
      exact h
  · rw [he]
    exact h

theorem distinct_runLines (h : s.vars.Distinct) (w : World) (lines : List String) :
    (s.runLines w lines).vars.Distinct := by
  induction lines generalizing s with
  | nil => exact h
  | cons line rest ih => exact ih (distinct_runLine h w line)

end Variables

section Requests

/-- The base URL of some arguments is good, if they have one, and their path resolves. -/
structure Addressed (s : Session) (a : Arguments) : Prop where
  base : ∀ url, a.url = some url → ∃ base, Url.read url = .ok base
  path : ∃ path, s.place.resolve (a.path.getD "") = .ok path

/-- A line asks for a request that can go out. -/
structure Asks (s : Session) (line : String) (a : Arguments) (verb : String) : Prop
    extends Addressed s a where
  reads : s.Reads line a
  helpless : a.help = false
  named : a.verb = some verb
  http : verb ∈ httpVerbs

/-- What a request carries for a line: its verb in capitals and, unless the method has no body
or the body is a form, the JSON text of one mapping. In it every name has the line's parameter,
or else the variable, and there are no other names. -/
structure Carries (vars : Assoc Value) (a : Arguments) (verb : String) (r : Request) : Prop where
  method : r.method = Text.upper verb
  body : r.method ≠ "GET" → r.method ≠ "HEAD" → ∃ contentType,
    r.headers.get? "Content-Type" = some contentType ∧
      (¬ Payload.NamesForm contentType → ∃ fields : Assoc Value,
        r.body = some (Text.bytes (Value.object fields).text) ∧ fields.Distinct ∧
          ∀ k, fields.get? k = (a.params.get? k).or (vars.get? k))

theorem isHttpVerb_iff {verb : String} : isHttpVerb verb = true ↔ verb ∈ httpVerbs := by
  simp [isHttpVerb]

theorem withUrl_ok_iff :
    (∃ t, s.withUrl a = .ok t) ↔ ∀ url, a.url = some url → ∃ base, Url.read url = .ok base := by
  unfold withUrl
  cases a.url with
  | none => simp
  | some url => cases h : Url.read url <;> simp [setUrl, Client.setBase, h]

theorem withUrl_leaves (h : s.withUrl a = .ok s') :
    s'.place = s.place ∧ s'.vars = s.vars ∧ s'.client.sent = s.client.sent := by
  obtain ⟨options, base, rfl⟩ := withUrl_reconfigured h
  exact ⟨rfl, rfl, rfl⟩

theorem parameters_get? (s : Session) (ha : a.params.Distinct) (k : String) :
    (s.parameters a).get? k = (a.params.get? k).or (s.vars.get? k) := by
  rw [parameters, Assoc.get?_merge, Assoc.last?_eq_get? ha]

theorem carries_compose {verb : String} (hv : verb ≠ "") (hs : s.vars.Distinct)
    (ha : a.params.Distinct) (path : String) :
    Carries s.vars a verb (s.client.compose verb path (s.requestOptions a)) where
  method := by simp only [Client.compose, Client.effectiveMethod, if_neg hv]
  body hget hhead := by
    have hmapping : (s.requestOptions a).body = some (.value (.object (s.parameters a))) := rfl
    obtain ⟨contentType, hc, hbody⟩ := Client.compose_object s.client path hmapping hget hhead
    exact ⟨contentType, hc, fun hf =>
      ⟨s.parameters a, hbody hf, hs.merge a.params, parameters_get? s ha⟩⟩

/-- Sending arguments sends one request if they can be addressed, and else none. -/
theorem send_sent (w : World) (s : Session) (verb : String) (a : Arguments) (summarize : Bool) :
    (Addressed s a ∧ ∃ (t : Session) (path : String), t.vars = s.vars ∧
      (s.send w verb a summarize).session.client.sent =
        s.client.sent ++ [t.client.compose verb path (t.requestOptions a)]) ∨
    (¬ Addressed s a ∧
      (s.send w verb a summarize).session.client.sent = s.client.sent) := by
  rcases send_cases w s verb a summarize with ⟨e, hu, he⟩ | ⟨t, e, hu, hp, he⟩ |
    ⟨t, path, hu, hp, he⟩ <;> rw [he]
  · refine .inr ⟨fun h => ?_, rfl⟩
    obtain ⟨t, ht⟩ := withUrl_ok_iff.2 h.base
    rw [hu] at ht
    cases ht
  · obtain ⟨hplace, -, hsent⟩ := withUrl_leaves hu
    refine .inr ⟨fun h => ?_, hsent⟩
    obtain ⟨path, hpath⟩ := h.path
    rw [hplace, hpath] at hp
    cases hp
  · obtain ⟨hplace, hvars, hsent⟩ := withUrl_leaves hu
    refine .inl ⟨⟨withUrl_ok_iff.1 ⟨t, hu⟩, path, hplace ▸ hp⟩, t, path, hvars, ?_⟩
    rw [exchanged_sent, hsent]

theorem report_client (o : Outcome) : (report o).session.client = o.session.client := by
  rcases report_session o with h | h <;> rw [h]
  rfl

/-- Arguments are a request that is sent, or they are not to be sent and nothing is. -/
theorem runArguments_sent (w : World) (s : Session) (a : Arguments) (summarize : Bool) :
    (∃ (verb : String) (t : Session) (path : String), a.help = false ∧ a.verb = some verb ∧
      verb ∈ httpVerbs ∧ Addressed s a ∧ t.vars = s.vars ∧
      (s.runArguments w a summarize).session.client.sent =
        s.client.sent ++ [t.client.compose verb path (t.requestOptions a)]) ∨
    ((∀ verb, a.help = false → a.verb = some verb → verb ∈ httpVerbs → ¬ Addressed s a) ∧
      (s.runArguments w a summarize).session.client.sent = s.client.sent) := by
  cases kind a with
  | help hhelp =>
    rw [runArguments_of_help hhelp]
    exact .inr ⟨fun _ h => absurd (hhelp.symm.trans h) (by decide), rfl⟩
  | silent hhelp hsilent =>
    obtain ⟨status, notices, he⟩ := runNothing_eq s
    rw [runArguments_of_silent hhelp hsilent, he]
    refine .inr ⟨fun verb _ hv hh => ?_, rfl⟩
    rw [hsilent.eq_empty hv] at hh
    exact absurd hh (by decide)
  | @http verb hhelp hv hh =>
    rw [runArguments_of_http hhelp hv hh]
    rcases send_sent w s verb a summarize with ⟨hd, t, path, ht, hsent⟩ | ⟨hd, hsent⟩
    · exact .inl ⟨verb, t, path, hhelp, hv, isHttpVerb_iff.1 hh, hd, ht, hsent⟩
    · exact .inr ⟨fun _ _ _ _ => hd, hsent⟩
  | @command verb hhelp hv hne hh =>
    rw [runArguments_of_command hhelp hv hne hh]
    refine .inr ⟨fun verb' _ hv' hh' => ?_, ?_⟩
    · obtain rfl := Option.some.inj (hv.symm.trans hv')
      rw [isHttpVerb_iff.2 hh'] at hh
      cases hh
    · obtain ⟨base, hc⟩ := command_client w s verb a.operands
      rcases Outcome.finished_session (s.command w verb a.operands) with he | he <;> rw [he]
      · rw [hc]
      · rw [withStatus, hc]

/-- A line sends one request or none. It sends one just when it asks for one that can go out, with
its verb and with its parameters over the variables. -/
theorem runLine_request (w : World) {start : Session} (hstart : start.vars.Distinct)
    (lines : List String) (line : String) :
    let s := start.runLines w lines
    let s' := (s.runLine w line).session
    ((¬ ∃ a verb, Asks s line a verb) ∧ s'.client.sent = s.client.sent) ∨
      ∃ a verb r, Asks s line a verb ∧ s'.client.sent = s.client.sent ++ [r] ∧
        Carries s.vars a verb r := by
  intro s s'
  have hvars : s.vars.Distinct := distinct_runLines hstart w lines
  rcases runLine_reads w s line with ⟨a, ha⟩ | ⟨hn, e, he⟩
  · have hs' : s'.client = (s.runArguments w a true).session.client := by
      unfold s'
      rw [runLine_of_reads w ha, report_client]
    rw [hs']
    rcases runArguments_sent w s a true with ⟨verb, t, path, hhelp, hv, hh, hd, ht, hsent⟩ |
      ⟨hn, hsent⟩
    · refine .inr ⟨a, verb, _, ⟨hd, ha, hhelp, hv, hh⟩, hsent, ?_⟩
      obtain ⟨words, -, hread⟩ := ha
      rw [← ht]
      refine carries_compose ?_ (ht ▸ hvars) (Arguments.distinct_params hread) path
      rintro rfl
      exact absurd hh (by decide)
    · refine .inl ⟨?_, hsent⟩
      rintro ⟨b, verb, hb⟩
      obtain rfl := hb.reads.unique ha
      exact hn verb hb.helpless hb.named hb.http hb.toAddressed
  · refine .inl ⟨fun ⟨a, verb, h⟩ => hn a h.reads, ?_⟩
    unfold s'
    rw [he, report_client]
    rfl

/-- A variable goes out beside the parameter of a line. -/
theorem runLine_request_learned :
    let s := fresh.runLines answering ["get / -d token+=id"]
    let s' := (s.runLine answering "post /docs name=widget").session
    fresh.vars.Distinct ∧ ∃ (r : Request) (fields : Assoc Value),
      s'.client.sent = s.client.sent ++ [r] ∧ r.method = "POST" ∧
      r.body = some (Text.bytes (Value.object fields).text) ∧ fields.Distinct ∧
      fields.get? "token" = some (.string "x") ∧ fields.get? "name" = some (.string "widget") := by
  have hs : fresh.runLines answering ["get / -d token+=id"] = learned := by decide +kernel
  have hfresh : fresh.vars.Distinct := List.nodup_nil
  have h := runLine_request answering hfresh ["get / -d token+=id"] "post /docs name=widget"
  simp only [hs] at h ⊢
  refine ⟨hfresh, ?_⟩
  have hlast : (learned.runLine answering "post /docs name=widget").session.client.sent =
      learned.client.sent ++ [⟨"POST", "http://api.test/docs",
        [("Content-Type", "application/json"), ("Accept", "application/json")],
        some (Text.bytes "\x7b\"token\":\"x\",\"name\":\"widget\"\x7d")⟩] := by
    decide +kernel
  have hread : learned.Reads "post /docs name=widget"
      { verb := some "post", path := some "/docs", params := [("name", .string "widget")] } :=
    ⟨["post", "/docs", "name=widget"], by decide +kernel, by decide +kernel⟩
  rcases h with ⟨-, hnone⟩ | ⟨a, verb, r, hasks, hsent, hcarries⟩
  · rw [hlast] at hnone
    simp at hnone
  · obtain rfl := hasks.reads.unique hread
    have hr := (List.cons.inj (List.append_cancel_left (hsent.symm.trans hlast))).1
    have hmethod : r.method = "POST" := by rw [hr]
    obtain ⟨contentType, hc, hbody⟩ :=
      hcarries.body (by rw [hmethod]; decide) (by rw [hmethod]; decide)
    have hjson : contentType = "application/json" := by
      rw [hr] at hc
      exact (Option.some.inj hc).symm
    have hform : ¬ Payload.NamesForm contentType := by
      rw [hjson]
      unfold Payload.NamesForm
      decide +kernel
    obtain ⟨fields, hbytes, hdistinct, hget⟩ := hbody hform
    refine ⟨r, fields, hsent, hmethod, hbytes, hdistinct, ?_, ?_⟩
    · rw [hget]
      rfl
    · rw [hget]
      rfl

end Requests
end Session
end RestShell
