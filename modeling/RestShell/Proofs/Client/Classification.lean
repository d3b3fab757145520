import Mathlib.Tactic.SplitIfs
import RestShell.Client.Basic

/-! What an answered request comes to. An error status fails with its class and keeps the
response only when the body can be read; a body that cannot be read fails as such, whatever
the status. -/

namespace RestShell

namespace FailureKind

/-- The statuses of a class. -/
def Covers : FailureKind → Nat → Prop
  | .other, status => status < 200
  | .user, status => 400 ≤ status ∧ status < 500
  | .server, status => 500 ≤ status

theorem ofStatus?_eq_some_iff {status : Nat} {kind : FailureKind} :
    ofStatus? status = some kind ↔ kind.Covers status := by
  unfold ofStatus?
  cases kind <;> simp only [Covers]
  · split_ifs <;> simp <;> omega
  · split_ifs <;> simp <;> omega
  · split_ifs <;> simp <;> omega

theorem ofStatus?_eq_none_iff {status : Nat} :
    ofStatus? status = none ↔ 200 ≤ status ∧ status < 400 := by
  unfold ofStatus?
  split_ifs <;> simp <;> omega

end FailureKind

namespace Content

/-- The bytes under the content coding of a body, if there is one that is known. -/
inductive Unpacks (h : ReplyHeaders) (body : Bytes) : Bytes → Prop where
  | plain : (h.values "content-encoding").head? = none → Unpacks h body body
  | unknown {name : String} : (h.values "content-encoding").head? = some name →
      Coding.ofName? name = none → Unpacks h body body
  | coded {name : String} {coding : Coding} {bytes : Bytes} :
      (h.values "content-encoding").head? = some name → Coding.ofName? name = some coding →
      coding.decode body = .ok bytes → Unpacks h body bytes

/-- The content type of a reply, empty when it names none. -/
def typeOf (h : ReplyHeaders) : String := ((h.values "content-type").head?).getD ""

/-- The JSON value of a body, read from its text when a charset is named that is known. -/
def ReadsAs (contentType : String) (bytes : Bytes) (v : Json.Value) : Prop :=
  match text? contentType bytes with
  | some s => Json.read s = .ok v
  | none => Json.readBytes? bytes = some v

/-- A body can be read if it unpacks, and if what it unpacks to is JSON wherever a body that
is not empty calls itself so. -/
def Readable (h : ReplyHeaders) (body : Bytes) : Prop :=
  ∃ bytes, Unpacks h body bytes ∧
    (isJsonType (typeOf h) = true → bytes ≠ [] → ∃ v, ReadsAs (typeOf h) bytes v)

theorem decompress_eq_ok_iff {h : ReplyHeaders} {body bytes : Bytes} :
    decompress ((h.values "content-encoding").head?) body = .ok bytes ↔ Unpacks h body bytes := by
  constructor
  · intro hd
    unfold decompress at hd
    split at hd
    · rename_i hn
      cases hd
      exact .plain hn
    · rename_i name hn
      split at hd
      · rename_i hc
        cases hd
        exact .unknown hn hc
      · rename_i coding hc
        cases hb : coding.decode body with
        | error fault =>
          rw [hb] at hd
          cases hd
        | ok out =>
          rw [hb] at hd
          cases hd
          exact .coded hn hc hb
  · rintro (hn | ⟨hn, hc⟩ | ⟨hn, hc, hb⟩)
    · rw [hn, decompress]
    · rw [hn, decompress]
      simp only [hc]
    · rw [hn, decompress]
      simp only [hc, hb, Except.mapError]

theorem ofBytes_eq_ok_iff {contentType : String} {bytes : Bytes} :
    (∃ content, ofBytes contentType bytes = .ok content) ↔
      (isJsonType contentType = true → bytes ≠ [] → ∃ v, ReadsAs contentType bytes v) := by
  unfold ofBytes ReadsAs
  by_cases hj : isJsonType contentType = true
  · by_cases hb : bytes = []
    · simp [hj, hb]
    · simp only [hj, hb, if_true, if_false, ne_eq, not_false_eq_true, forall_const]
      cases text? contentType bytes with
      | none => cases Json.readBytes? bytes <;> simp
      | some s =>
        dsimp only
        cases Json.read s <;> simp [Except.toOption]
  · simp [hj]

theorem decode_eq (h : ReplyHeaders) (body : Bytes) :
    decode h body = (decompress ((h.values "content-encoding").head?) body).bind
      (ofBytes (typeOf h)) := rfl

theorem decode_eq_ok_iff {h : ReplyHeaders} {body : Bytes} :
    (∃ content, decode h body = .ok content) ↔ Readable h body := by
  rw [decode_eq]
  constructor
  · rintro ⟨content, hc⟩
    cases hd : decompress ((h.values "content-encoding").head?) body with
    | error fault =>
      rw [hd] at hc
      cases hc
    | ok bytes =>
      rw [hd, Except.bind] at hc
      exact ⟨bytes, decompress_eq_ok_iff.1 hd, ofBytes_eq_ok_iff.1 ⟨content, hc⟩⟩
  · rintro ⟨bytes, hu, hr⟩
    obtain ⟨content, hc⟩ := ofBytes_eq_ok_iff.2 hr
    refine ⟨content, ?_⟩
    rw [decompress_eq_ok_iff.2 hu, Except.bind]
    exact hc

end Content

namespace Client
variable {method path : String} {reply : Reply}

theorem conclude_of_unreadable (h : ¬ Content.Readable reply.headers reply.body) :
    ∃ fault, conclude method path reply = .error (.decode fault) := by
  cases hd : Content.decode reply.headers reply.body with
  | error fault => exact ⟨fault, by rw [conclude, hd]⟩
  | ok content => exact absurd (Content.decode_eq_ok_iff.1 ⟨content, hd⟩) h

theorem conclude_of_covers {kind : FailureKind} (hk : kind.Covers reply.status)
    (h : Content.Readable reply.headers reply.body) :
    ∃ content, conclude method path reply = .error (.http ⟨kind,
      "\"" ++ method ++ " " ++ path ++ "\" failed (" ++ toString reply.status ++ ")",
      .ofReply reply content⟩) := by
  obtain ⟨content, hd⟩ := Content.decode_eq_ok_iff.2 h
  refine ⟨content, ?_⟩
  rw [conclude, hd]
  simp only [FailureKind.ofStatus?_eq_some_iff.2 hk]

theorem conclude_ne_http (hl : 200 ≤ reply.status) (hu : reply.status < 400) (f : Failure) :
    conclude method path reply ≠ .error (.http f) := by
  intro h
  have hs := FailureKind.ofStatus?_eq_none_iff.2 ⟨hl, hu⟩
  unfold conclude at h
  split at h
  · cases h
  · simp only [hs] at h
    cases h

theorem request_outcome {t : Transport} {c : Client} {o : RequestOptions}
    (h : t c.sent (c.compose method path o) = .ok reply) :
    (request t c method path o).outcome =
      conclude (c.compose method path o).method (if path = "" then "/" else path) reply := by
  unfold request
  simp only [h]

/-- A request comes back well just when it is answered with a status from 200 to 399 and a body
that can be decoded. -/
theorem request_ok_iff {t : Transport} {c : Client} {o : RequestOptions} {r : Response} :
    (request t c method path o).outcome = .ok r ↔
      ∃ reply content, t c.sent (c.compose method path o) = .ok reply ∧ 200 ≤ reply.status ∧
        reply.status < 400 ∧ Content.decode reply.headers reply.body = .ok content ∧
        r = .ofReply reply content := by
  cases hsent : t c.sent (c.compose method path o) with
  | error reason => simp [request, hsent]
  | ok reply =>
    rw [request_outcome hsent, conclude]
    cases hd : Content.decode reply.headers reply.body with
    | error fault =>
      refine iff_of_false nofun ?_
      rintro ⟨reply', content, hreply, -, -, hcontent, -⟩
      obtain rfl := Except.ok.inj hreply
      rw [hd] at hcontent
      cases hcontent
    | ok content =>
      dsimp only
      constructor
      · intro h
        split at h <;> cases h
        rename_i hs
        obtain ⟨hl, hu⟩ := FailureKind.ofStatus?_eq_none_iff.1 hs
        exact ⟨reply, content, rfl, hl, hu, hd, rfl⟩
      · rintro ⟨reply', content', hreply, hl, hu, hcontent, rfl⟩
        obtain rfl := Except.ok.inj hreply
        obtain rfl := Except.ok.inj (hd.symm.trans hcontent)
        rw [FailureKind.ofStatus?_eq_none_iff.2 ⟨hl, hu⟩]

/-- An answered request with an error status fails with the class of the status, and with a
response that has it, just when the body can be read. Otherwise it fails for the body. A
status from 200 to 399 is never such a failure. -/
theorem request_http_iff {t : Transport} {c : Client} {o : RequestOptions}
    (h : t c.sent (c.compose method path o) = .ok reply) :
    (∀ kind : FailureKind, kind.Covers reply.status →
      ((∃ f : Failure, (request t c method path o).outcome = .error (.http f) ∧ f.kind = kind ∧
          f.response.status = reply.status) ↔ Content.Readable reply.headers reply.body)) ∧
    (¬ Content.Readable reply.headers reply.body →
      ∃ fault, (request t c method path o).outcome = .error (.decode fault)) ∧
    (200 ≤ reply.status → reply.status < 400 →
      ∀ f, (request t c method path o).outcome ≠ .error (.http f)) := by
  rw [request_outcome h]
  refine ⟨fun kind hk => ⟨?_, fun hr => ?_⟩, conclude_of_unreadable, conclude_ne_http⟩
  · rintro ⟨f, hf, -, -⟩
    by_cases hr : Content.Readable reply.headers reply.body
    · exact hr
    · obtain ⟨fault, he⟩ := conclude_of_unreadable hr
      rw [hf] at he
      cases he
  · obtain ⟨content, he⟩ := conclude_of_covers hk hr
    exact ⟨_, he, rfl, rfl⟩

/-- A page that is missing, with a body that says so in JSON. -/
theorem request_http_missing :
    ∃ f : Failure, (request
        (fun _ _ => .ok ⟨404, [("content-type", ["application/json"])], Text.bytes "[]", ⟨0⟩⟩)
        ⟨⟨"http", "api.test", 80, "/", "", "", ""⟩, [], none, false, []⟩ "get" "/docs" {}).outcome =
      .error (.http f) ∧ f.kind = .user ∧ f.response.status = 404 := by
  have hr : Content.Readable [("content-type", ["application/json"])] (Text.bytes "[]") :=
    ⟨_, .plain (by rfl), fun _ _ => ⟨.array [], by rfl⟩⟩
  have h := @request_http_iff "get" "/docs" _
    (fun _ _ => .ok ⟨404, [("content-type", ["application/json"])], Text.bytes "[]", ⟨0⟩⟩)
    ⟨⟨"http", "api.test", 80, "/", "", "", ""⟩, [], none, false, []⟩ {} rfl
  exact (h.1 .user (by simp [FailureKind.Covers])).2 hr

/-- A body that calls itself JSON and is not hides the failure of the server. -/
theorem request_hides_status :
    (request
        (fun _ _ => .ok ⟨500, [("content-type", ["application/json"])], Text.bytes "oops", ⟨0⟩⟩)
        ⟨⟨"http", "api.test", 80, "/", "", "", ""⟩, [], none, false, []⟩ "get" "/" {}).outcome =
      .error (.decode (.notJson (Text.bytes "oops"))) := by
  rfl

end Client
end RestShell
