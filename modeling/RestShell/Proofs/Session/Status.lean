import RestShell.Proofs.Session.Separation

/-! The status of a session against what was shown. A failure that is reported leaves the status
at 1, and a command that ends well leaves it at 0; but some errors are shown in passing and
leave it at 0, and some lines are no command of their own and leave the status of the one before
them. -/

namespace RestShell

open Json

/-- Whether some notices tell of an error. -/
def complains (notices : List Notice) : Bool := notices.any Notice.isError

@[simp] theorem complains_nil : complains [] = false := rfl

@[simp] theorem complains_cons (n : Notice) (notices : List Notice) :
    complains (n :: notices) = (n.isError || complains notices) := rfl

@[simp] theorem complains_append (a b : List Notice) :
    complains (a ++ b) = (complains a || complains b) := List.any_append

theorem complains_map_diagnostic (log : List String) :
    complains (log.map Notice.diagnostic) = false := by
  simp [complains, Notice.isError]

theorem complains_told (name mark : String) (v? : Option Value) :
    complains (v?.toList.map (Session.told name mark)) = false := by
  cases v? <;> rfl

namespace Outcome
variable {step : Session → String → Except ShellError (Session × List Notice)}

/-- Steps that show no errors show none together. -/
theorem complains_each
    (h : ∀ s operand s' notices, step s operand = .ok (s', notices) → complains notices = false)
    (s : Session) (operands : List String) : complains (each step s operands).notices = false := by
  induction operands generalizing s with
  | nil => rfl
  | cons operand rest ih =>
    cases hs : step s operand with
    | error e =>
      rw [each_cons_of_error hs]
      rfl
    | ok r =>
      obtain ⟨s', notices⟩ := r
      rw [each_cons_of_ok hs]
      simp [preceded, h s operand s' notices hs, ih s']

end Outcome

namespace Session
variable {w : World} {s s' : Session} {a : Arguments}

section Commands

theorem complains_setting {operand : String} {notices : List Notice}
    (h : s.setting operand = .ok (s', notices)) : complains notices = false := by
  unfold setting at h
  obtain ⟨pairs, -, h⟩ := exists_of_bind_eq_ok h
  obtain ⟨t, -, h⟩ := exists_of_bind_eq_ok h
  cases h
  rfl

theorem complains_envEntry {operand : String} {notices : List Notice}
    (h : s.envEntry operand = .ok (s', notices)) : complains notices = false := by
  unfold envEntry at h
  split at h
  · split at h <;> cases h <;> rfl
  · split at h <;> cases h
    rfl
  · cases h
    exact complains_told operand _ _

theorem complains_dataEntry {operand : String} {notices : List Notice}
    (h : s.dataEntry operand = .ok (s', notices)) : complains notices = false := by
  unfold dataEntry at h
  split at h
  · split at h <;> cases h <;> rfl
  · cases h
    exact complains_told operand _ _

theorem complains_set (s : Session) (operands : List String) :
    complains (s.set operands).notices = false := by
  unfold set
  split
  · rfl
  · exact Outcome.complains_each (fun _ _ _ _ => complains_setting) s operands

theorem complains_env (s : Session) (operands : List String) :
    complains (s.env operands).notices = false := by
  have h : complains (Outcome.each envEntry s
      (if operands = [] then s.vars.keys else operands)).notices = false :=
    Outcome.complains_each (fun _ _ _ _ => complains_envEntry) s _
  simp [env, Outcome.preceded, h, Notice.isError]

theorem complains_captured (s : Session) (operands : List String) :
    complains (s.captured operands).notices = false := by
  have h : complains (Outcome.each dataEntry s
      (if operands = [] then s.data.keys else operands)).notices = false :=
    Outcome.complains_each (fun _ _ _ _ => complains_dataEntry) s _
  simp [captured, Outcome.preceded, h, Notice.isError]

/-- A program that ended badly is the one thing that a command of the shell complains of. -/
theorem complains_command (w : World) (s : Session) (verb : String) (operands : List String) :
    complains (s.command w verb operands).notices = true ↔
      verb = "sh" ∧ operands ≠ [] ∧
        ∃ r, w.programs s.files operands = .ok r ∧ r.exit ≠ .status 0 := by
  unfold command
  split
  · simp [complains_set]
  · simp [complains_env]
  · simp [complains_captured]
  · unfold changePlace
    split <;> simp [Outcome.fails]
  · simp [Outcome.shows, Notice.isError]
  · simp
  · simp [Outcome.shows, Notice.isError]
  · unfold runProgram
    split
    · simp [Outcome.fails]
    · split
      · rename_i hp
        simp [Outcome.fails, hp]
      · rename_i r hp
        by_cases hr : r.exit = .status 0 <;> simp [Notice.isError, hp, hr]
  · simp [Outcome.shows, Notice.isError]
  · rename_i hsh _
    exact iff_of_false (by simp [Outcome.fails]) fun h => hsh h.1

end Commands

section Responses

/-- The status tells the truth about some notices. -/
def Truthful (s : Session) (notices : List Notice) : Prop :=
  s.status = if complains notices then 1 else 0

/-- How a response that came back well is not dealt with as the arguments ask. -/
inductive Undone (files : Files) (a : Arguments) (r : Response) : Prop where
  /-- A path of its projection is malformed. -/
  | projection {fault : SyntaxFault} : wantsPart a = true → r.isJson = true →
      Projection.of (bodyShown r.content) a.extract a.exclude a.captures = .error fault →
      Undone files a r
  /-- The file of its redirection cannot be written. -/
  | redirect {target : Redirect} {e : FileError} :
      (wantsPart a = true → r.isJson = true →
        ∃ p, Projection.of (bodyShown r.content) a.extract a.exclude a.captures = .ok p) →
      a.redirect = some target → files.writable target.path = .error e → Undone files a r

theorem complains_redirectTo (s : Session) (target : Redirect) (v : Value) :
    complains (s.redirectTo target v).2 = true ↔
      ∃ e, s.files.writable target.path = .error e := by
  unfold redirectTo Files.write
  cases s.files.writable target.path with
  | ok spot => simp [bind, Except.bind, pure, Except.pure]
  | error e => simp [bind, Except.bind, Notice.isError]

/-- After a request that went well only a redirection can fail. -/
theorem complains_deliver (s : Session) (a : Arguments) (v : Value) :
    complains (s.deliver a none v).2 = true ↔
      ∃ target e, a.redirect = some target ∧ s.files.writable target.path = .error e := by
  unfold deliver
  cases a.redirect with
  | none => simp [Notice.isError]
  | some target => simp [complains_redirectTo]

/-- The summary below what is delivered is no error. -/
theorem complains_settle (s : Session) (a : Arguments) (summarize : Bool)
    (outcome : Except ClientError Response) (v : Value) :
    complains (s.settle a summarize outcome v).2 =
      complains (s.deliver a (failureOf outcome) v).2 := by
  rw [settle, complains_append]
  cases summarize <;> cases responseOf outcome <;> simp [Notice.isError]

theorem settle_error_truthful (h : s.status = 1) (a : Arguments) (summarize : Bool)
    (e : ClientError) (v : Value) :
    Truthful (s.settle a summarize (.error e) v).1 (s.settle a summarize (.error e) v).2 := by
  obtain ⟨files, hf⟩ := settle_files s a summarize (.error e) v
  rw [Truthful, hf, complains_settle]
  simp [deliver, failureOf, Notice.isError, h]

theorem settle_ok_truthful_iff (h : s.status = 0) (a : Arguments) (summarize : Bool)
    (r : Response) (v : Value) :
    Truthful (s.settle a summarize (.ok r) v).1 (s.settle a summarize (.ok r) v).2 ↔
      ¬ ∃ target e, a.redirect = some target ∧ s.files.writable target.path = .error e := by
  obtain ⟨files, hf⟩ := settle_files s a summarize (.ok r) v
  rw [← complains_deliver s a v, Truthful, hf, complains_settle, failureOf]
  cases complains (s.deliver a none v).2 <;> simp [h]

/-- A request that failed is shown as such, or its projection is, and the status says so. -/
theorem conclude_error_truthful (s : Session) (a : Arguments) (summarize : Bool)
    (e : ClientError) :
    Truthful (s.conclude a summarize (.error e)).1 (s.conclude a summarize (.error e)).2 := by
  cases answer a (.error e) with
  | none hr =>
    rw [conclude_of_none hr]
    exact settle_error_truthful rfl a summarize e _
  | whole hr hw =>
    rw [conclude_of_whole hr hw]
    exact settle_error_truthful rfl a summarize e _
  | part hr hw hp =>
    rw [conclude_of_part hr hw hp]
    exact settle_error_truthful (keepAll_status _ _) a summarize e _
  | fault hr hw hp =>
    rw [conclude_of_fault hr hw hp]
    rfl

/-- What came back well is told truly unless it is not dealt with as the arguments ask. -/
theorem conclude_ok_truthful_iff (s : Session) (a : Arguments) (summarize : Bool) (r : Response) :
    Truthful (s.conclude a summarize (.ok r)).1 (s.conclude a summarize (.ok r)).2 ↔
      ¬ Undone s.files a r := by
  cases answer a (.ok r) with
  | none hr => cases hr
  | whole hr hw =>
    cases hr
    rw [conclude_of_whole rfl hw, settle_ok_truthful_iff rfl]
    rw [Bool.and_eq_false_imp] at hw
    refine not_congr ⟨fun ⟨target, e, ht, he⟩ =>
      .redirect (fun hpart hjson => absurd hjson (by simp [hw hpart])) ht he, ?_⟩
    rintro (⟨hpart, hjson, -⟩ | ⟨-, ht, he⟩)
    · exact absurd hjson (by simp [hw hpart])
    · exact ⟨_, _, ht, he⟩
  | part hr hw hp =>
    cases hr
    rw [conclude_of_part rfl hw hp, settle_ok_truthful_iff (keepAll_status _ _), keepAll_files]
    refine not_congr ⟨fun ⟨target, e, ht, he⟩ => .redirect (fun _ _ => ⟨_, hp⟩) ht he, ?_⟩
    rintro (⟨-, -, hf⟩ | ⟨-, ht, he⟩)
    · rw [hp] at hf
      cases hf
    · exact ⟨_, _, ht, he⟩
  | fault hr hw hp =>
    cases hr
    obtain ⟨hpart, hjson⟩ := Bool.and_eq_true_iff.1 hw
    rw [conclude_of_fault rfl hw hp]
    exact ⟨nofun, fun h => absurd (.projection hpart hjson hp) h⟩

end Responses

section Lines

/-- The request of some arguments goes out and comes back well. -/
def Succeeds (w : World) (s : Session) (a : Arguments) (r : Response) : Prop :=
  ∃ verb t path, a.verb = some verb ∧ isHttpVerb verb = true ∧ s.withUrl a = .ok t ∧
    t.place.resolve (a.path.getD "") = .ok path ∧
    (t.client.request w.transport verb path (t.requestOptions a)).outcome = .ok r

/-- How the status after a line can differ from what was shown. -/
inductive Misreported (w : World) (s : Session) (a : Arguments) : Prop where
  /-- Help asked for by a flag leaves the status of the line before. -/
  | help : a.help = true → s.status ≠ 0 → Misreported w s a
  /-- So does a line without a verb in a shell; elsewhere it is a failure that shows the help. -/
  | silent : a.help = false → Silent a → (s.options.shell = true → s.status ≠ 0) →
      Misreported w s a
  /-- A program that ended badly is shown as an error and is no failure. -/
  | program {r : Ran} : a.help = false → a.verb = some "sh" → a.operands ≠ [] →
      w.programs s.files a.operands = .ok r → r.exit ≠ .status 0 → Misreported w s a
  /-- So is what could not be done about a response that came back well. -/
  | response {r : Response} : a.help = false → Succeeds w s a r → Undone s.files a r →
      Misreported w s a

/-- The status that an outcome leaves, once it is reported, tells what was shown. -/
def ToldTruly (o : Outcome) : Prop := Truthful (report o).session (report o).notices

/-- A failure is shown and leaves the status at 1. -/
theorem toldTruly_of_error {o : Outcome} {e : ShellError} (h : o.result = .error e) :
    ToldTruly o := by
  simp [ToldTruly, report, h, Truthful, withStatus, Notice.isError]

theorem toldTruly_iff_of_ok {o : Outcome} {flow : Flow} (h : o.result = .ok flow) :
    ToldTruly o ↔ Truthful o.session o.notices := by
  simp only [ToldTruly, report, h]

theorem exchanged_truly_iff {verb path : String} {summarize : Bool} :
    ToldTruly (s.exchanged w verb path a summarize) ↔
      ∀ r, (s.client.request w.transport verb path (s.requestOptions a)).outcome = .ok r →
        ¬ Undone s.files a r := by
  rw [toldTruly_iff_of_ok rfl]
  unfold exchanged
  generalize s.client.request w.transport verb path (s.requestOptions a) = x
  dsimp only
  have hlog : ∀ (t : Session) (notices : List Notice),
      Truthful t (x.log.map .diagnostic ++ notices) ↔ Truthful t notices := by
    intro t notices
    rw [Truthful, complains_append, complains_map_diagnostic, Bool.false_or]
    rfl
  rw [hlog]
  cases ho : x.outcome with
  | error e => exact iff_of_true (conclude_error_truthful _ a summarize e) nofun
  | ok r => simp [conclude_ok_truthful_iff]

/-- A request tells the truth unless it comes back well and is not dealt with as asked. -/
theorem send_truly_iff {verb : String} {summarize : Bool} (hv : a.verb = some verb)
    (hh : isHttpVerb verb = true) :
    ToldTruly (s.send w verb a summarize) ↔ ∀ r, Succeeds w s a r → ¬ Undone s.files a r := by
  rcases send_cases w s verb a summarize with ⟨e, hu, he⟩ | ⟨t, e, hu, hp, he⟩ |
    ⟨t, path, hu, hp, he⟩ <;> rw [he]
  · refine iff_of_true (toldTruly_of_error rfl) ?_
    rintro r ⟨verb', t, path, -, -, ht, -⟩
    rw [hu] at ht
    cases ht
  · refine iff_of_true (toldTruly_of_error rfl) ?_
    rintro r ⟨verb', t', path, -, -, ht, hpath, -⟩
    obtain rfl := Except.ok.inj (hu.symm.trans ht)
    rw [hp] at hpath
    cases hpath
  · have hfiles : t.files = s.files := by
      obtain ⟨options, base, rfl⟩ := withUrl_reconfigured hu
      rfl
    rw [exchanged_truly_iff, hfiles]
    refine forall_congr' fun r => imp_congr_left ⟨fun hr => ⟨verb, t, path, hv, hh, hu, hp, hr⟩, ?_⟩
    rintro ⟨verb', t', path', hv', -, ht, hpath, hr⟩
    obtain rfl := Option.some.inj (hv.symm.trans hv')
    obtain rfl := Except.ok.inj (hu.symm.trans ht)
    obtain rfl := Except.ok.inj (hp.symm.trans hpath)
    exact hr

/-- A command of the shell tells the truth unless it is a program that ended badly. -/
theorem command_truly_iff (w : World) (s : Session) (verb : String) (operands : List String) :
    ToldTruly (s.command w verb operands).finished ↔
      ¬ (verb = "sh" ∧ operands ≠ [] ∧
        ∃ r, w.programs s.files operands = .ok r ∧ r.exit ≠ .status 0) := by
  rw [← complains_command]
  cases hr : (s.command w verb operands).result with
  | ok flow =>
    rw [toldTruly_iff_of_ok ((Outcome.finished_result _).trans hr), Outcome.finished_of_ok hr]
    cases hc : complains (s.command w verb operands).notices <;> simp [Truthful, withStatus, hc]
  | error e =>
    rw [Outcome.finished_of_error hr]
    refine iff_of_true (toldTruly_of_error hr) fun hc => ?_
    obtain ⟨rfl, ho, r, hp, -⟩ := (complains_command w s verb operands).1 hc
    obtain ⟨program, rest, rfl⟩ := List.exists_cons_of_ne_nil ho
    simp only [command, runProgram, hp] at hr
    cases hr

theorem runNothing_truly_iff (s : Session) :
    ToldTruly s.runNothing ↔ ¬ (s.options.shell = true → s.status ≠ 0) := by
  unfold runNothing
  by_cases hs : s.options.shell = true
  · rw [if_pos hs, toldTruly_iff_of_ok rfl]
    simp [Truthful, hs]
  · rw [if_neg hs, toldTruly_iff_of_ok rfl]
    simp [Truthful, Outcome.shows, withStatus, Notice.isError, hs]

/-- Running arguments tells the truth just when they are not one of the cases that do not. -/
theorem runArguments_truly_iff (w : World) (s : Session) (a : Arguments) (summarize : Bool) :
    ToldTruly (s.runArguments w a summarize) ↔ ¬ Misreported w s a := by
  cases kind a with
  | help hhelp =>
    have htruth : ToldTruly (.shows s (.message usage)) ↔ ¬ s.status ≠ 0 := by
      rw [toldTruly_iff_of_ok rfl, not_not]
      rfl
    rw [runArguments_of_help hhelp, htruth]
    refine not_congr ⟨.help hhelp, ?_⟩
    rintro (⟨-, hs⟩ | ⟨hf, -⟩ | ⟨hf, -⟩ | ⟨hf, -⟩)
    · exact hs
    all_goals exact absurd (hhelp.symm.trans hf) (by decide)
  | silent hhelp hs =>
    rw [runArguments_of_silent hhelp hs, runNothing_truly_iff]
    refine not_congr ⟨.silent hhelp hs, ?_⟩
    rintro (⟨hf, -⟩ | ⟨-, -, h⟩ | ⟨-, hv, -⟩ | ⟨-, ⟨verb, t, path, hv, hh, -⟩, -⟩)
    · exact absurd (hhelp.symm.trans hf) (by decide)
    · exact h
    · exact absurd (hs.eq_empty hv) (by decide)
    · rw [hs.eq_empty hv] at hh
      cases hh
  | http hhelp hv hh =>
    rw [runArguments_of_http hhelp hv hh, send_truly_iff hv hh]
    constructor
    · rintro h (⟨hf, -⟩ | ⟨-, hs, -⟩ | ⟨-, hsh, -⟩ | ⟨-, hr, hu⟩)
      · exact absurd (hhelp.symm.trans hf) (by decide)
      · rw [hs.eq_empty hv] at hh
        cases hh
      · obtain rfl := Option.some.inj (hv.symm.trans hsh)
        cases hh
      · exact h _ hr hu
    · exact fun h r hr hu => h (.response hhelp hr hu)
  | command hhelp hv hne hh =>
    rw [runArguments_of_command hhelp hv hne hh, command_truly_iff]
    refine not_congr ⟨?_, ?_⟩
    · rintro ⟨rfl, ho, r, hp, hr⟩
      exact .program hhelp hv ho hp hr
    · rintro (⟨hf, -⟩ | ⟨-, hs, -⟩ | ⟨-, hsh, ho, hp, hr⟩ | ⟨-, ⟨verb', t, path, hv', hh', -⟩, -⟩)
      · exact absurd (hhelp.symm.trans hf) (by decide)
      · exact absurd (hs.eq_empty hv) hne
      · exact ⟨Option.some.inj (hv.symm.trans hsh), ho, _, hp, hr⟩
      · obtain rfl := Option.some.inj (hv.symm.trans hv')
        rw [hh] at hh'
        cases hh'

/-- After a line the status is 1 if an error was shown and 0 if none was, unless the line is
help asked for by a flag behind a failure, says nothing, runs a program that ends badly, or is
a request that comes back well and whose projection or redirection cannot be made. -/
theorem runLine_status_iff (w : World) (s : Session) (line : String) :
    let step := s.runLine w line
    (step.session.status = if step.notices.any Notice.isError then 1 else 0) ↔
      ∀ a, s.Reads line a → ¬ Misreported w s a := by
  intro step
  rcases runLine_reads w s line with ⟨a, ha⟩ | ⟨hn, e, he⟩
  · have hstep : step = report (s.runArguments w a true) := runLine_of_reads w ha
    rw [hstep]
    refine (runArguments_truly_iff w s a true).trans ⟨fun h b hb => ?_, fun h => h a ha⟩
    rwa [← ha.unique hb]
  · have hstep : step = report (.fails s (.line e)) := he
    rw [hstep]
    exact iff_of_true (toldTruly_of_error rfl) fun a ha => absurd ha (hn a)

/-- A projection and a redirection that cannot be made and a program that ends badly are shown
as errors and leave the status at 0; help behind a failed line leaves its status. -/
theorem runLine_status_untold :
    let projected := fresh.runLine answering "get / -x a..b"
    let redirected := fresh.runLine answering "get / > no/such"
    let ran := fresh.runLine answering "sh false"
    let helped := (fresh.runLines answering ["bogus"]).runLine answering "get / -h"
    ofOptions fresh.options [] = .ok fresh ∧
    (projected.notices = [.error "Invalid path: \"a..b\""] ∧ projected.session.status = 0) ∧
    (redirected.notices.any Notice.isError = true ∧ redirected.session.status = 0) ∧
    (ran.notices.any Notice.isError = true ∧ ran.session.status = 0) ∧
    (helped.notices.any Notice.isError = false ∧ helped.session.status = 1) := by
  refine ⟨by rfl, ⟨?_, ?_⟩, ⟨?_, ?_⟩, ⟨?_, ?_⟩, ?_, ?_⟩ <;> decide +kernel

end Lines
end Session
end RestShell
