import RestShell.Proofs.Client.Classification
import RestShell.Proofs.Files.Writing
import RestShell.Proofs.Session.Separation

/-! Redirections. Everything about a request that can fail comes before the file of its
redirection is opened: the base URL, the path, the exchange, the status, the body and the
projection. So the file is written just when there is a value to write, and then it has the text
of that value and the output has nothing of it; no other file is touched. -/

namespace RestShell

open Json

theorem shownBy_out {notices : List Notice} (h : ∀ n ∈ notices, n.shown.out = "") :
    (shownBy notices).out = "" := by
  have hjoin (texts : List String) (ht : ∀ t ∈ texts, t = "") : String.join texts = "" := by
    induction texts with
    | nil => rfl
    | cons t rest ih =>
      rw [String.join_cons, ht t List.mem_cons_self,
        ih fun t ht' => ht t (List.mem_cons_of_mem _ ht')]
      rfl
  refine hjoin _ fun t ht => ?_
  obtain ⟨shown, hmem, rfl⟩ := List.mem_map.1 ht
  obtain ⟨n, hn, rfl⟩ := List.mem_map.1 hmem
  exact h n hn

namespace Session
variable {w : World} {s t : Session} {a : Arguments} {r : Response} {v : Value}
  {target : Redirect}

section Values

/-- The request of some arguments goes out and is answered. -/
def Replied (w : World) (s : Session) (a : Arguments) (reply : Reply) : Prop :=
  ∃ verb t path, a.verb = some verb ∧ isHttpVerb verb = true ∧ s.withUrl a = .ok t ∧
    t.place.resolve (a.path.getD "") = .ok path ∧
    w.transport t.client.sent (t.client.compose verb path (t.requestOptions a)) = .ok reply

/-- What some arguments pick of a response: all of its body if they ask for no part of it or it is
no JSON, and else what their projection finds. -/
inductive Picks (a : Arguments) (r : Response) : Value → Prop where
  | whole : (wantsPart a && r.isJson) = false → Picks a r (bodyShown r.content)
  | part {p : Projection} : (wantsPart a && r.isJson) = true →
      Projection.of (bodyShown r.content) a.extract a.exclude a.captures = .ok p →
      Picks a r p.picked

/-- A line comes to a value: its request is answered with a status that is no error, the body can
be decoded, and what the line asks for can be picked of it. -/
def Yields (w : World) (s : Session) (a : Arguments) (v : Value) : Prop :=
  a.help = false ∧ ∃ reply content, Replied w s a reply ∧ 200 ≤ reply.status ∧
    reply.status < 400 ∧ Content.decode reply.headers reply.body = .ok content ∧
    Picks a (.ofReply reply content) v

/-- A value comes of a request just when it comes back well and the value is picked of it. -/
theorem yields_iff {verb path : String} (hhelp : a.help = false) (hv : a.verb = some verb)
    (hh : isHttpVerb verb = true) (hu : s.withUrl a = .ok t)
    (hp : t.place.resolve (a.path.getD "") = .ok path) :
    Yields w s a v ↔ ∃ r,
      (t.client.request w.transport verb path (t.requestOptions a)).outcome = .ok r ∧
        Picks a r v := by
  constructor
  · rintro ⟨-, reply, content, ⟨verb', t', path', hv', -, hu', hp', hreply⟩, hl, hs, hd, hpick⟩
    obtain rfl := Option.some.inj (hv.symm.trans hv')
    obtain rfl := Except.ok.inj (hu.symm.trans hu')
    obtain rfl := Except.ok.inj (hp.symm.trans hp')
    exact ⟨_, Client.request_ok_iff.2 ⟨reply, content, hreply, hl, hs, hd, rfl⟩, hpick⟩
  · rintro ⟨r, hr, hpick⟩
    obtain ⟨reply, content, hreply, hl, hs, hd, rfl⟩ := Client.request_ok_iff.1 hr
    exact ⟨hhelp, reply, content, ⟨verb, t, path, hv, hh, hu, hp, hreply⟩, hl, hs, hd, hpick⟩

end Values

section Files

/-- What a redirection of a value does: its file gets the text, behind what it held or in place of
it, if it can be written, and the output gets nothing. -/
structure Redirected (fs : Files) (target : Redirect) (v : Value) (fs' : Files)
    (notices : List Notice) : Prop where
  written : ∀ spot, fs.writable target.path = .ok spot →
    Files.Wrote fs target.path spot
      ((if target.mode = .continue then Files.held fs target.path else []) ++
        Text.bytes (redirectText v)) fs'
  refused : ∀ e, fs.writable target.path = .error e → fs' = fs
  unseen : (shownBy notices).out = ""

/-- Whether its file can be written or not, a redirection says nothing of the value. -/
theorem redirectTo_redirected (s : Session) (target : Redirect) (v : Value)
    {above below : List Notice} (habove : ∀ n ∈ above, n.shown.out = "")
    (hbelow : ∀ n ∈ below, n.shown.out = "") :
    Redirected s.files target v (s.redirectTo target v).1.files
      (above ++ ((s.redirectTo target v).2 ++ below)) := by
  have hunseen (between : List Notice) (hbetween : ∀ n ∈ between, n.shown.out = "") :
      (shownBy (above ++ (between ++ below))).out = "" := by
    refine shownBy_out fun n hn => ?_
    rw [List.mem_append, List.mem_append] at hn
    rcases hn with hn | hn | hn
    · exact habove n hn
    · exact hbetween n hn
    · exact hbelow n hn
  unfold redirectTo
  cases hw : s.files.writable target.path with
  | ok spot =>
    rw [Files.write_of_writable hw]
    refine ⟨fun spot' hspot => ?_, fun e he => ?_, hunseen [] nofun⟩
    · obtain rfl := Except.ok.inj (hw.symm.trans hspot)
      simp only [decide_eq_true_eq]
      exact Files.wrote_putAt hw _
    · rw [hw] at he
      cases he
  | error e =>
    rw [Files.write_of_not_writable hw]
    refine ⟨fun spot hspot => ?_, fun _ _ => rfl, hunseen _ fun n hn => ?_⟩
    · rw [hw] at hspot
      cases hspot
    · rw [List.mem_singleton.1 hn]
      rfl

end Files

section Answers

/-- A value that is settled goes where the redirection leads, and what is shown around it, the log
above and the summary below, is no output. -/
theorem settle_redirected (s : Session) (summarize : Bool) (r : Response) (v : Value)
    (hr : a.redirect = some target) (log : List String) :
    Redirected s.files target v (s.settle a summarize (.ok r) v).1.files
      (log.map .diagnostic ++ (s.settle a summarize (.ok r) v).2) := by
  have hlog : ∀ n ∈ log.map Notice.diagnostic, n.shown.out = "" := by
    intro n hn
    obtain ⟨text, -, rfl⟩ := List.mem_map.1 hn
    rfl
  have hbelow : ∀ n ∈ (if summarize = true then
      (some r).toList.map fun r => Notice.summary r.summary (s.style a).color else []),
      n.shown.out = "" := by
    intro n hn
    cases summarize with
    | true =>
      rw [List.mem_singleton.1 hn]
      rfl
    | false => cases hn
  simp only [settle, failureOf, deliver, hr, responseOf]
  exact redirectTo_redirected s target v hlog hbelow

theorem conclude_picked (s : Session) (summarize : Bool) (hpick : Picks a r v)
    (hr : a.redirect = some target) {log : List String} :
    Redirected s.files target v (s.conclude a summarize (.ok r)).1.files
      (log.map .diagnostic ++ (s.conclude a summarize (.ok r)).2) := by
  cases hpick with
  | whole hw =>
    rw [conclude_of_whole rfl hw]
    exact settle_redirected (s.received (.ok r)) summarize r _ hr log
  | @part p hw hp =>
    rw [conclude_of_part rfl hw hp]
    have hkept := settle_redirected ((s.received (.ok r)).keepAll p.captured) summarize r p.picked
      hr log
    rwa [keepAll_files] at hkept

theorem conclude_unpicked (s : Session) (summarize : Bool) (h : ∀ v, ¬ Picks a r v) :
    (s.conclude a summarize (.ok r)).1.files = s.files := by
  cases answer a (.ok r) with
  | none hr => cases hr
  | whole hr hw =>
    cases hr
    exact absurd (.whole hw) (h _)
  | part hr hw hp =>
    cases hr
    exact absurd (.part hw hp) (h _)
  | fault hr hw hp =>
    rw [conclude_of_fault hr hw hp]
    rfl

/-- After a request that failed nothing is written. -/
theorem conclude_failed (s : Session) (a : Arguments) (summarize : Bool) (e : ClientError) :
    (s.conclude a summarize (.error e)).1.files = s.files := by
  cases answer a (.error e) with
  | none hr =>
    rw [conclude_of_none hr]
    rfl
  | whole hr hw =>
    rw [conclude_of_whole hr hw]
    rfl
  | part hr hw hp =>
    rw [conclude_of_part hr hw hp]
    exact keepAll_files _ _
  | fault hr hw hp =>
    rw [conclude_of_fault hr hw hp]
    rfl

end Answers

section Lines

/-- A request that does not go out writes nothing, nor does one that comes to no value; one that
comes to a value redirects it. -/
theorem send_redirects (w : World) (s : Session) (summarize : Bool) {verb : String}
    (hhelp : a.help = false) (hv : a.verb = some verb) (hh : isHttpVerb verb = true)
    (hr : a.redirect = some target) :
    let step := report (s.send w verb a summarize)
    (∀ v, Yields w s a v → Redirected s.files target v step.session.files step.notices) ∧
    ((∀ v, ¬ Yields w s a v) → step.session.files = s.files) := by
  intro step
  rcases send_cases w s verb a summarize with ⟨e, hu, he⟩ | ⟨t, e, hu, hp, he⟩ |
    ⟨t, path, hu, hp, he⟩
  · have hstep : step = report (.fails s e) := by rw [← he]
    refine ⟨?_, fun _ => by rw [hstep]; rfl⟩
    rintro v ⟨-, reply, content, ⟨verb', t, path, -, -, hu', -⟩, -⟩
    rw [hu] at hu'
    cases hu'
  · have hfiles : t.files = s.files := by
      obtain ⟨options, base, rfl⟩ := withUrl_reconfigured hu
      rfl
    have hstep : step = report (.fails t (.path e)) := by rw [← he]
    refine ⟨?_, fun _ => by rw [hstep]; exact hfiles⟩
    rintro v ⟨-, reply, content, ⟨verb', t', path, -, -, hu', hp', -⟩, -⟩
    obtain rfl := Except.ok.inj (hu.symm.trans hu')
    rw [hp] at hp'
    cases hp'
  · have hfiles : t.files = s.files := by
      obtain ⟨options, base, rfl⟩ := withUrl_reconfigured hu
      rfl
    have hstep : step = report (t.exchanged w verb path a summarize) := by rw [← he]
    simp only [yields_iff hhelp hv hh hu hp, hstep, report, exchanged]
    generalize t.client.request w.transport verb path (t.requestOptions a) = x
    rw [← hfiles]
    cases hx : x.outcome with
    | error e =>
      constructor
      · rintro v ⟨r, hr, -⟩
        cases hr
      · intro _
        exact conclude_failed { t with client := x.client } a summarize e
    | ok r =>
      constructor
      · rintro v ⟨r', hr', hpick⟩
        obtain rfl := Except.ok.inj hr'
        exact conclude_picked { t with client := x.client } summarize hpick hr
      · intro hnone
        exact conclude_unpicked { t with client := x.client } summarize
          fun v hpick => hnone v ⟨r, rfl, hpick⟩

/-- The fresh session with a file and a folder. -/
def stocked : Session :=
  { fresh with files := [("log", .file (Text.bytes "old ")), ("docs", .folder)] }

end Lines
end Session
end RestShell
