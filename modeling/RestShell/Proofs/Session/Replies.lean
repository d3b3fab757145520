import RestShell.Proofs.Client.Composition
import RestShell.Proofs.Line.Scan
import RestShell.Proofs.Session.Stores

/-! What comes back to a session. A response is there when a reply is whose body can be decoded.
It sets the status, may be written to a file, and is kept in the stores under the names of
the captures if it is JSON. -/

namespace RestShell

open Json

/-- Some values are captured under a name. -/
def Arguments.Captures (a : Arguments) (key : String) : Prop := ∃ path, ⟨key, path⟩ ∈ a.captures

namespace Projection

theorem keys_captureAll {v : Value} {captures : List Capture} {kept : List (String × List Value)}
    (h : captureAll v captures = .ok kept) : kept.map Prod.fst = captures.map Capture.key := by
  induction captures generalizing kept with
  | nil =>
    cases h
    rfl
  | cons c rest ih =>
    obtain ⟨path, -, h⟩ := exists_of_bind_eq_ok h
    obtain ⟨others, hr, h⟩ := exists_of_bind_eq_ok h
    cases h
    rw [List.map_cons, List.map_cons, ih hr]

/-- A projection keeps values under the names of its captures. -/
theorem keys_captured {v : Value} {extract exclude : List String} {captures : List Capture}
    {p : Projection} (h : Projection.of v extract exclude captures = .ok p) :
    p.captured.map Prod.fst = captures.map Capture.key := by
  obtain ⟨pruned, -, h⟩ := exists_of_bind_eq_ok h
  dsimp only at h
  split at h
  all_goals
    obtain ⟨found, -, h⟩ := exists_of_bind_eq_ok h
    obtain ⟨kept, hc, h⟩ := exists_of_bind_eq_ok h
    cases h
    exact keys_captureAll hc

/-- So every value that it keeps is under the name of a capture. -/
theorem captures_of_captured {v : Value} {a : Arguments} {p : Projection}
    (h : Projection.of v a.extract a.exclude a.captures = .ok p) :
    ∀ c ∈ p.captured, a.Captures c.1 := by
  intro c hc
  have hkey : c.1 ∈ a.captures.map Capture.key := by
    rw [← keys_captured h]
    exact List.mem_map_of_mem hc
  obtain ⟨capture, hmem, he⟩ := List.mem_map.1 hkey
  exact ⟨capture.path, he ▸ hmem⟩

/-- What is shown of a projection: one match as it is, any other number as a list. -/
def picked (p : Projection) : Value :=
  match p.found with
  | [v] => v
  | vs => .array vs

end Projection

namespace Session
variable {s s' : Session} {a : Arguments}

theorem project_eq (s : Session) (v : Value) (a : Arguments) :
    s.project v a = (Projection.of v a.extract a.exclude a.captures).map fun p =>
      (p.picked, s.keepAll p.captured) := rfl

theorem project_of_ok {v : Value} {p : Projection}
    (h : Projection.of v a.extract a.exclude a.captures = .ok p) (s : Session) :
    s.project v a = .ok (p.picked, s.keepAll p.captured) := by
  rw [project_eq, h]
  rfl

theorem project_of_error {v : Value} {fault : SyntaxFault}
    (h : Projection.of v a.extract a.exclude a.captures = .error fault) (s : Session) :
    s.project v a = .error fault := by
  rw [project_eq, h]
  rfl

section Answers
variable {outcome : Except ClientError Response} {r : Response}

theorem deliver_files (s : Session) (a : Arguments) (failure : Option ClientError) (v : Value) :
    ∃ files, (s.deliver a failure v).1 = { s with files } := by
  unfold deliver
  split
  · unfold redirectTo
    split
    · exact ⟨_, rfl⟩
    · exact ⟨s.files, rfl⟩
  · exact ⟨s.files, rfl⟩
  · exact ⟨s.files, rfl⟩

/-- The failure of an exchange. -/
def failureOf : Except ClientError Response → Option ClientError
  | .ok _ => none
  | .error e => some e

/-- The session with the status of an exchange. -/
def received (s : Session) (outcome : Except ClientError Response) : Session :=
  s.withStatus (if (failureOf outcome).isSome then 1 else 0)

/-- Delivers what an exchange comes to, and below it the summary of the response if there is one. -/
def settle (s : Session) (a : Arguments) (summarize : Bool) (outcome : Except ClientError Response)
    (v : Value) : Session × List Notice :=
  let after := s.deliver a (failureOf outcome) v
  (after.1, after.2 ++
    if summarize then
      (responseOf outcome).toList.map fun r => .summary r.summary (s.style a).color
    else [])

/-- What the arguments make of an exchange: nothing without a response, all of the body or the part
that they ask for, or the fault of a projection. -/
inductive Answer (a : Arguments) (outcome : Except ClientError Response) : Prop where
  | none : responseOf outcome = none → Answer a outcome
  | whole {r : Response} : responseOf outcome = some r → (wantsPart a && r.isJson) = false →
      Answer a outcome
  | part {r : Response} {p : Projection} : responseOf outcome = some r →
      (wantsPart a && r.isJson) = true →
      Projection.of (bodyShown r.content) a.extract a.exclude a.captures = .ok p → Answer a outcome
  | fault {r : Response} {fault : SyntaxFault} : responseOf outcome = some r →
      (wantsPart a && r.isJson) = true →
      Projection.of (bodyShown r.content) a.extract a.exclude a.captures = .error fault →
      Answer a outcome

theorem answer (a : Arguments) (outcome : Except ClientError Response) : Answer a outcome := by
  cases hr : responseOf outcome with
  | none => exact .none hr
  | some r =>
    cases hw : wantsPart a && r.isJson with
    | false => exact .whole hr hw
    | true =>
      cases hp : Projection.of (bodyShown r.content) a.extract a.exclude a.captures with
      | ok p => exact .part hr hw hp
      | error fault => exact .fault hr hw hp

theorem conclude_of_none (h : responseOf outcome = none) (s : Session) (a : Arguments)
    (summarize : Bool) :
    s.conclude a summarize outcome = (s.received outcome).settle a summarize outcome .null := by
  simp only [conclude, settle, h]
  rfl

theorem conclude_of_whole (hr : responseOf outcome = some r)
    (hw : (wantsPart a && r.isJson) = false) (s : Session) (summarize : Bool) :
    s.conclude a summarize outcome =
      (s.received outcome).settle a summarize outcome (bodyShown r.content) := by
  simp only [conclude, settle, hr, hw]
  rfl

theorem conclude_of_part {p : Projection} (hr : responseOf outcome = some r)
    (hw : (wantsPart a && r.isJson) = true)
    (hp : Projection.of (bodyShown r.content) a.extract a.exclude a.captures = .ok p)
    (s : Session) (summarize : Bool) :
    s.conclude a summarize outcome =
      ((s.received outcome).keepAll p.captured).settle a summarize outcome p.picked := by
  simp only [conclude, settle, hr, hw, project_of_ok hp, if_true]
  rfl

theorem conclude_of_fault {fault : SyntaxFault} (hr : responseOf outcome = some r)
    (hw : (wantsPart a && r.isJson) = true)
    (hp : Projection.of (bodyShown r.content) a.extract a.exclude a.captures = .error fault)
    (s : Session) (summarize : Bool) :
    s.conclude a summarize outcome = (s.received outcome, [.error fault.message]) := by
  simp only [conclude, hr, hw, project_of_error hp, if_true]
  rfl

theorem settle_files (s : Session) (a : Arguments) (summarize : Bool)
    (outcome : Except ClientError Response) (v : Value) :
    ∃ files, (s.settle a summarize outcome v).1 = { s with files } :=
  deliver_files s a _ v

end Answers

/-- What becomes of a request leaves the stores, or keeps captures of a JSON response. -/
theorem conclude_cases (s : Session) (a : Arguments) (summarize : Bool)
    (outcome : Except ClientError Response) :
    let s' := (s.conclude a summarize outcome).1
    (∃ status files, s' = { s with status, files }) ∨
    ∃ r kept status files, responseOf outcome = some r ∧ r.isJson = true ∧
      (∀ c ∈ kept, a.Captures c.1) ∧
      s' = { ({ s with status } : Session).keepAll kept with files } := by
  intro s'
  unfold s'
  cases answer a outcome with
  | none hr =>
    obtain ⟨files, hf⟩ := settle_files (s.received outcome) a summarize outcome .null
    rw [conclude_of_none hr, hf]
    exact .inl ⟨_, files, rfl⟩
  | @whole r hr hw =>
    obtain ⟨files, hf⟩ :=
      settle_files (s.received outcome) a summarize outcome (bodyShown r.content)
    rw [conclude_of_whole hr hw, hf]
    exact .inl ⟨_, files, rfl⟩
  | @part r p hr hw hp =>
    obtain ⟨files, hf⟩ :=
      settle_files ((s.received outcome).keepAll p.captured) a summarize outcome p.picked
    rw [conclude_of_part hr hw hp, hf]
    exact .inr ⟨r, p.captured, _, files, hr, (Bool.and_eq_true_iff.1 hw).2,
      Projection.captures_of_captured hp, rfl⟩
  | fault hr hw hp =>
    rw [conclude_of_fault hr hw hp]
    exact .inl ⟨_, s.files, rfl⟩

/-- What comes back changes nothing of the client; its request has. -/
theorem conclude_client (s : Session) (a : Arguments) (summarize : Bool)
    (outcome : Except ClientError Response) :
    (s.conclude a summarize outcome).1.client = s.client := by
  rcases conclude_cases s a summarize outcome with
    ⟨status, files, he⟩ | ⟨r, kept, status, files, -, -, -, he⟩ <;> rw [he]
  exact keepAll_client _ kept

theorem withUrl_reconfigured (h : s.withUrl a = .ok s') : Reconfigured s s' := by
  unfold withUrl at h
  split at h
  · exact setUrl_reconfigured h
  · cases h
    exact .refl s

/-- There is a response just when there is a reply whose body can be decoded. -/
theorem responseOf_conclude {method path : String} {reply : Reply} {r : Response}
    (h : responseOf (Client.conclude method path reply) = some r) :
    ∃ content, Content.decode reply.headers reply.body = .ok content ∧
      r = .ofReply reply content := by
  unfold Client.conclude at h
  cases hd : Content.decode reply.headers reply.body with
  | error fault =>
    rw [hd] at h
    cases h
  | ok content =>
    refine ⟨content, rfl, ?_⟩
    simp only [hd] at h
    split at h <;> cases h <;> rfl

/-- A request was sent and answered, and the response is JSON. -/
def AnsweredInJson (w : World) (s s' : Session) : Prop :=
  ∃ r reply content, s'.client.sent = s.client.sent ++ [r] ∧
    w.transport s.client.sent r = .ok reply ∧
    Content.decode reply.headers reply.body = .ok content ∧
    (Response.ofReply reply content).isJson = true

theorem responseOf_request {t : Transport} {c : Client} {method path : String}
    {o : RequestOptions} {r : Response}
    (h : responseOf (Client.request t c method path o).outcome = some r) :
    ∃ reply content, t c.sent (c.compose method path o) = .ok reply ∧
      Content.decode reply.headers reply.body = .ok content ∧ r = .ofReply reply content := by
  unfold Client.request at h
  cases ht : t c.sent (c.compose method path o) with
  | error reason =>
    simp only [ht] at h
    cases h
  | ok reply =>
    simp only [ht] at h
    obtain ⟨content, hc, hr⟩ := responseOf_conclude h
    exact ⟨reply, content, rfl, hc, hr⟩

theorem exchanged_sent (w : World) (s : Session) (verb path : String) (a : Arguments)
    (summarize : Bool) :
    (s.exchanged w verb path a summarize).session.client.sent =
      s.client.sent ++ [s.client.compose verb path (s.requestOptions a)] := by
  unfold exchanged
  dsimp only
  rw [conclude_client, Client.request_sent]

theorem exchanged_base (w : World) (s : Session) (verb path : String) (a : Arguments)
    (summarize : Bool) :
    (s.exchanged w verb path a summarize).session.client.base = s.client.base := by
  unfold exchanged
  dsimp only
  rw [conclude_client, Client.request_base]

/-- A request that goes out leaves the stores, or it is answered in JSON and captures of that are
kept. -/
theorem exchanged_cases (w : World) (s : Session) (verb path : String) (a : Arguments)
    (summarize : Bool) :
    let s' := (s.exchanged w verb path a summarize).session
    (∃ client status files, s' = { s with client, status, files }) ∨
    ∃ client kept status files, AnsweredInJson w s s' ∧ (∀ c ∈ kept, a.Captures c.1) ∧
      s' = { ({ s with client, status } : Session).keepAll kept with files } := by
  intro s'
  let x := s.client.request w.transport verb path (s.requestOptions a)
  rcases conclude_cases { s with client := x.client } a summarize x.outcome with
    ⟨status, files, he⟩ | ⟨r, kept, status, files, hr, hj, hk, he⟩
  · exact .inl ⟨x.client, status, files, he⟩
  · obtain ⟨reply, content, ht, hd, rfl⟩ := responseOf_request hr
    have hsent := exchanged_sent w s verb path a summarize
    exact .inr ⟨x.client, kept, status, files, ⟨_, reply, content, hsent, ht, hd, hj⟩, hk, he⟩

end Session
end RestShell
