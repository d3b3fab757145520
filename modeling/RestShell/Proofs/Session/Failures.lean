import RestShell.Proofs.Session.Redirection

/-! Requests that fail. Whatever a line asks for, its failure is shown with the payload that came
back, but for one case: the response of an error status is JSON and a path of the projection is
malformed. Then the fault of that path takes the place of the failure. -/

namespace RestShell

open Json

namespace Notice

/-- What is written of a payload: the beginning of a text in the formatted layout, and else all. -/
def written (v : Value) (style : Style) : String :=
  match v with
  | .null => ""
  | .string s => if style.formatted then preview s else s
  | v => render style v

theorem infix_of_eq {text mid : String} (above below : String) (h : text = above ++ mid ++ below) :
    mid.toList <:+: text.toList :=
  ⟨above.toList, below.toList, by rw [h, String.toList_append, String.toList_append]⟩

/-- A failure is written with its text on the error stream, and with its payload. -/
theorem failure_written (message : String) (v : Value) (style : Style) :
    message.toList <:+: (Notice.failure message v style).shown.err.toList ∧
    ((written v style).toList <:+: (Notice.failure message v style).shown.out.toList ∨
      (written v style).toList <:+: (Notice.failure message v style).shown.err.toList) := by
  obtain ⟨opening, closing, hmarks⟩ : ∃ opening closing,
      (if style.color = true then (Ansi.red, Ansi.reset) else ("", "")) = (opening, closing) :=
    ⟨_, _, rfl⟩
  simp only [shown, showFailure, hmarks]
  cases v with
  | null =>
    refine ⟨infix_of_eq (opening ++ "! ") (closing ++ "\n") ?_, .inl List.nil_infix⟩
    simp [line, String.append_assoc]
  | string s =>
    dsimp only [written]
    split
    · refine ⟨infix_of_eq (opening ++ "! ")
          (" (" ++ counts s ++ ")" ++ closing ++ "\n:" ++ preview s ++ "\n") ?_,
        .inr (infix_of_eq (opening ++ "! " ++ message ++ " (" ++ counts s ++ ")" ++ closing ++ "\n:")
          "\n" ?_)⟩ <;> simp [line, String.append_assoc]
    · refine ⟨infix_of_eq (opening ++ "! ") (":" ++ closing ++ "\n" ++ s ++ "\n") ?_,
        .inr (infix_of_eq (opening ++ "! " ++ message ++ ":" ++ closing ++ "\n") "\n" ?_)⟩ <;>
        simp [line, String.append_assoc]
  | _ =>
    refine ⟨infix_of_eq (opening ++ "! ") (":" ++ closing ++ "\n") ?_,
      .inl (infix_of_eq "" "\n" ?_)⟩ <;> simp [written, line, String.append_assoc]

theorem infix_join {texts : List String} {t : String} (h : t ∈ texts) :
    t.toList <:+: (String.join texts).toList := by
  induction texts with
  | nil => cases h
  | cons u rest ih =>
    rw [String.join_cons, String.toList_append]
    rcases List.mem_cons.1 h with rfl | hrest
    · exact List.infix_append [] _ _
    · exact (ih hrest).trans (List.suffix_append _ _).isInfix

/-- What one of some notices writes is among what they write together. -/
theorem infix_shownBy {notices : List Notice} {n : Notice} (h : n ∈ notices) :
    n.shown.out.toList <:+: (shownBy notices).out.toList ∧
    n.shown.err.toList <:+: (shownBy notices).err.toList := by
  have hshown : n.shown ∈ notices.map shown := List.mem_map_of_mem h
  exact ⟨infix_join (List.mem_map_of_mem hshown), infix_join (List.mem_map_of_mem hshown)⟩

end Notice

namespace Session
variable {w : World} {s t : Session} {a : Arguments} {e : ClientError}

section Answers

/-- What is shown with a failure: of an error status what the arguments pick of its response, and
of any other nothing. -/
inductive Payloaded (a : Arguments) : ClientError → Value → Prop where
  | response {f : Failure} {v : Value} : Picks a f.response v → Payloaded a (.http f) v
  | nothing {e : ClientError} : (∀ f, e ≠ .http f) → Payloaded a e .null

/-- Some notices show a failure: its text is written on the error stream, and its payload as well. -/
def ShowsFailure (a : Arguments) (style : Style) (e : ClientError) (notices : List Notice) : Prop :=
  ∃ v, Payloaded a e v ∧ .failure e.message v style ∈ notices ∧
    e.message.toList <:+: (shownBy notices).err.toList ∧
    ((Notice.written v style).toList <:+: (shownBy notices).out.toList ∨
      (Notice.written v style).toList <:+: (shownBy notices).err.toList)

/-- The response of an error status is JSON, and a path of its projection is malformed. -/
def Unprojectable (a : Arguments) (e : ClientError) (fault : SyntaxFault) : Prop :=
  ∃ f, e = .http f ∧ (wantsPart a && f.response.isJson) = true ∧
    Projection.of (bodyShown f.response.content) a.extract a.exclude a.captures = .error fault

theorem showsFailure_of_mem {style : Style} {notices : List Notice} {v : Value}
    (hv : Payloaded a e v) (hmem : .failure e.message v style ∈ notices) :
    ShowsFailure a style e notices := by
  obtain ⟨hmessage, hpayload⟩ := Notice.failure_written e.message v style
  obtain ⟨hout, herr⟩ := Notice.infix_shownBy hmem
  exact ⟨v, hv, hmem, hmessage.trans herr,
    hpayload.imp (fun h => h.trans hout) (fun h => h.trans herr)⟩

theorem exists_http_of_responseOf {r : Response} (h : responseOf (.error e) = some r) :
    ∃ f, e = .http f ∧ f.response = r := by
  cases e with
  | http f => exact ⟨f, rfl, Option.some.inj h⟩
  | _ => cases h

theorem keepAll_style (s : Session) (kept : List (String × List Value)) (a : Arguments) :
    (s.keepAll kept).style a = s.style a := by
  obtain ⟨vars, data, he⟩ := keepAll_stored s kept
  rw [he]
  rfl

/-- A request that failed is shown with its payload, or the fault of its projection is. -/
theorem conclude_error_cases (s : Session) (a : Arguments) (summarize : Bool) (e : ClientError) :
    ((∀ fault, ¬ Unprojectable a e fault) ∧ ∃ v, Payloaded a e v ∧ ∃ below,
      (s.conclude a summarize (.error e)).2 = .failure e.message v (s.style a) :: below) ∨
    ∃ fault, Unprojectable a e fault ∧
      (s.conclude a summarize (.error e)).2 = [.error fault.message] := by
  cases answer a (.error e) with
  | none hr =>
    have hnone : ∀ f, e ≠ .http f := by
      rintro f rfl
      cases hr
    rw [conclude_of_none hr]
    refine .inl ⟨?_, .null, .nothing hnone, _, rfl⟩
    rintro fault ⟨f, hf, -⟩
    exact hnone f hf
  | whole hr hw =>
    obtain ⟨f, rfl, rfl⟩ := exists_http_of_responseOf hr
    rw [conclude_of_whole hr hw]
    refine .inl ⟨?_, bodyShown f.response.content, .response (.whole hw), _, rfl⟩
    rintro fault ⟨f', hf, hw', -⟩
    cases hf
    rw [hw] at hw'
    cases hw'
  | @part _ p hr hw hp =>
    obtain ⟨f, rfl, rfl⟩ := exists_http_of_responseOf hr
    have hstyle : ((s.received (.error (.http f))).keepAll p.captured).style a = s.style a :=
      keepAll_style _ p.captured a
    rw [conclude_of_part hr hw hp, ← hstyle]
    refine .inl ⟨?_, p.picked, .response (.part hw hp), _, rfl⟩
    rintro fault ⟨f', hf, -, hp'⟩
    cases hf
    rw [hp] at hp'
    cases hp'
  | fault hr hw hp =>
    obtain ⟨f, rfl, rfl⟩ := exists_http_of_responseOf hr
    rw [conclude_of_fault hr hw hp]
    exact .inr ⟨_, ⟨f, rfl, hw, hp⟩, rfl⟩

end Answers

section Lines

/-- The request of some arguments goes out and fails. -/
def Fails (w : World) (s : Session) (a : Arguments) (e : ClientError) : Prop :=
  ∃ verb t path, a.verb = some verb ∧ isHttpVerb verb = true ∧ s.withUrl a = .ok t ∧
    t.place.resolve (a.path.getD "") = .ok path ∧
    (t.client.request w.transport verb path (t.requestOptions a)).outcome = .error e

theorem withUrl_style (h : s.withUrl a = .ok t) : t.style a = s.style a := by
  unfold withUrl at h
  split at h
  · unfold setUrl at h
    split at h <;> cases h
    rfl
  · cases h
    rfl

/-- The notices of a request that fails: a log, and what becomes of the failure. -/
theorem send_notices_of_fails {verb : String} (hv : a.verb = some verb) (hf : Fails w s a e)
    (summarize : Bool) : ∃ (t : Session) (log : List String), t.style a = s.style a ∧
      (report (s.send w verb a summarize)).notices =
        log.map .diagnostic ++ (t.conclude a summarize (.error e)).2 := by
  obtain ⟨verb', t, path, hv', -, hu, hp, he⟩ := hf
  obtain rfl := Option.some.inj (hv.symm.trans hv')
  let x := t.client.request w.transport verb path (t.requestOptions a)
  have hstyle : ({ t with client := x.client } : Session).style a = t.style a := rfl
  refine ⟨{ t with client := x.client }, x.log, hstyle.trans (withUrl_style hu), ?_⟩
  rw [send_of_resolved hu hp]
  simp only [report, exchanged, he]
  rfl

/-- A request that fails is shown as a failure, with its text and its payload, whatever part of it
the line asks for and wherever that should go, unless the response of an error status is JSON and a
path of the projection is malformed. Then the fault of the path is shown last and no failure at
all. -/
theorem runLine_failure_iff (w : World) {s : Session} {line : String} {a : Arguments}
    {e : ClientError} (ha : s.Reads line a) (hhelp : a.help = false) (hf : Fails w s a e) :
    let notices := (s.runLine w line).notices
    (ShowsFailure a (s.style a) e notices ↔ ∀ fault, ¬ Unprojectable a e fault) ∧
    ∀ fault, Unprojectable a e fault → (∀ message v style, .failure message v style ∉ notices) ∧
      notices.getLast? = some (.error fault.message) := by
  obtain ⟨verb, -, -, hv, hh, -⟩ := id hf
  obtain ⟨t, log, hstyle, hlog⟩ := send_notices_of_fails hv hf true
  have hnotices : (s.runLine w line).notices =
      log.map .diagnostic ++ (t.conclude a true (.error e)).2 := by
    rw [runLine_of_reads w ha, runArguments_of_http hhelp hv hh, hlog]
  intro notices
  rcases conclude_error_cases t a true e with ⟨hgood, v, hpayload, below, hc⟩ | ⟨fault, hbad, hc⟩
  · have hmem : .failure e.message v (s.style a) ∈ notices := by
      rw [← hstyle]
      simp [notices, hnotices, hc]
    exact ⟨iff_of_true (showsFailure_of_mem hpayload hmem) hgood,
      fun fault hbad => absurd hbad (hgood fault)⟩
  · have hall : notices = log.map .diagnostic ++ [.error fault.message] := by
      rw [← hc, ← hnotices]
    have hnone : ∀ message v style, .failure message v style ∉ notices := by
      intro message v style hmem
      simp [hall] at hmem
    have hfault : ∀ fault', Unprojectable a e fault' → fault' = fault := by
      rintro fault' ⟨f, rfl, -, hp⟩
      obtain ⟨f', hf', -, hp'⟩ := hbad
      cases hf'
      exact Except.error.inj (hp.symm.trans hp')
    refine ⟨iff_of_false ?_ fun h => h fault hbad, fun fault' hbad' => ⟨hnone, ?_⟩⟩
    · rintro ⟨v, -, hmem, -⟩
      exact hnone _ _ _ hmem
    · rw [hfault fault' hbad', hall, List.getLast?_concat]

/-- A server that fails, and says of what in JSON. -/
def breaking : World where
  transport _ _ := .ok ⟨500, [("content-type", ["application/json"])],
    Text.bytes "\x7b\"id\":\"x\"\x7d", ⟨0⟩⟩

/-- The failure of a request under that server. -/
def broken : ClientError :=
  .http ⟨.server, "\"GET /\" failed (500)", .ofReply
    ⟨500, [("content-type", ["application/json"])], Text.bytes "\x7b\"id\":\"x\"\x7d", ⟨0⟩⟩
    (.json (.object [("id", .string "x")]))⟩

/-- A part of what came with a failure is shown with it, and the file of the redirection is not
written in place of that. -/
theorem runLine_failure_picked :
    let a : Arguments :=
      { verb := some "get", path := some "/", extract := ["id"], redirect := some ⟨"log", .replace⟩ }
    let notices := (fresh.runLine breaking "get / -x id > log").notices
    (fresh.Reads "get / -x id > log" a ∧ Fails breaking fresh a broken) ∧
      ShowsFailure a (fresh.style a) broken notices := by
  intro a notices
  have hread : fresh.Reads "get / -x id > log" a :=
    ⟨["get", "/", "-x", "id", ">", "log"], by decide +kernel, by decide +kernel⟩
  have hfails : Fails breaking fresh a broken :=
    ⟨"get", fresh, "/", rfl, by decide, rfl, by decide +kernel, by decide +kernel⟩
  refine ⟨⟨hread, hfails⟩, (runLine_failure_iff breaking hread rfl hfails).1.2 ?_⟩
  rintro fault ⟨f, hf, -, hp⟩
  cases hf
  have hok : Projection.of (.object [("id", .string "x")]) ["id"] [] [] =
      .ok ⟨[.string "x"], []⟩ := by decide +kernel
  exact absurd (hok.symm.trans hp) nofun

/-- A malformed path hides the failure of the server. -/
theorem runLine_failure_hidden :
    let a : Arguments := { verb := some "get", path := some "/", extract := ["a..b"] }
    let notices := (fresh.runLine breaking "get / -x a..b").notices
    (fresh.Reads "get / -x a..b" a ∧ Fails breaking fresh a broken) ∧
      notices = [.error "Invalid path: \"a..b\""] ∧
        ¬ ShowsFailure a (fresh.style a) broken notices := by
  intro a notices
  have hread : fresh.Reads "get / -x a..b" a :=
    ⟨["get", "/", "-x", "a..b"], by decide +kernel, by decide +kernel⟩
  have hfails : Fails breaking fresh a broken :=
    ⟨"get", fresh, "/", rfl, by decide, rfl, by decide +kernel, by decide +kernel⟩
  have hnotices : notices = [.error "Invalid path: \"a..b\""] := by decide +kernel
  refine ⟨⟨hread, hfails⟩, hnotices, ?_⟩
  rintro ⟨v, -, hmem, -⟩
  rw [hnotices] at hmem
  simp at hmem

end Lines
end Session
end RestShell
