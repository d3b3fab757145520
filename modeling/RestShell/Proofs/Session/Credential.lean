import RestShell.Proofs.Session.Congruence
import RestShell.Proofs.Text.Quoted

/-! What the commands of the shell tell of a credential. No command looks at it but the two that
list the settings; the listing of the options leaves it out, and the dump says of the client's
that it is set. In the dump of the options it stands as it is: so the dump, and nothing else,
shows one credential from another. -/

namespace RestShell

namespace Shape

theorem entriesText_append (margin : String) (a b : List (String × Shape)) :
    entriesText margin (a ++ b) = entriesText margin a ++ entriesText margin b := by
  induction a with
  | nil => simp [entriesText]
  | cons e r ih =>
    obtain ⟨label, x⟩ := e
    simp only [List.cons_append, entriesText, ih, String.append_assoc]

theorem text_group {entries : List (String × Shape)} (h : entries ≠ [])
    (margin opening closing : String) :
    (group opening entries closing).text margin =
      opening ++ "\n" ++ entriesText (margin ++ "    ") entries ++ margin ++ closing := by
  obtain ⟨e, r, rfl⟩ := List.exists_cons_of_ne_nil h
  rfl

/-- Records that differ in one field tell it. -/
theorem text_record_field {margin name label : String} {a b : List (String × Shape)} {x y : Shape}
    (h : (record name (a ++ (label, x) :: b)).text margin =
      (record name (a ++ (label, y) :: b)).text margin) :
    x.text (margin ++ "    ") = y.text (margin ++ "    ") := by
  unfold record at h
  rw [text_group (by simp), text_group (by simp)] at h
  simpa only [List.map_append, List.map_cons, entriesText_append, entriesText,
    String.append_left_inj, String.append_right_inj] using h

theorem text_optional_inj {margin c d : String}
    (h : (optional (some c)).text margin = (optional (some d)).text margin) : c = d := by
  simp only [optional, list, List.map_cons, List.map_nil, text, entriesText, quoted,
    String.append_left_inj, String.append_right_inj] at h
  exact Text.quoted_injective h

end Shape

namespace Session
variable {s t : Session} {a : Arguments}

/-- The session with a credential in its options and one that its client uses by default. -/
def withCredentials (s : Session) (own default : String) : Session :=
  { s with
    options := { s.options with credential := some own }
    client := s.client.setCredential (some default) }

/-- All but the credentials is the same, and these are set. -/
def Recredentialed (s t : Session) : Prop :=
  ∃ u own default own' default', s = withCredentials u own default ∧
    t = withCredentials u own' default'

theorem congruence_recredentialed : Congruence Recredentialed where
  agree h := by
    obtain ⟨u, _, _, _, _, rfl, rfl⟩ := h
    exact ⟨_, _, rfl⟩
  shell h := by
    obtain ⟨u, _, _, _, _, rfl, rfl⟩ := h
    rfl
  turn h on switch := by
    obtain ⟨u, own, default, own', default', rfl, rfl⟩ := h
    refine ⟨{ u with options := u.options.turn on switch }, own, default, own', default', ?_⟩
    cases switch <;> exact ⟨rfl, rfl⟩
  url h url base := by
    obtain ⟨u, own, default, own', default', rfl, rfl⟩ := h
    exact ⟨{ u with client := { u.client with base }, options := { u.options with url } },
      own, default, own', default', rfl, rfl⟩
  others h place vars data files status := by
    obtain ⟨u, own, default, own', default', rfl, rfl⟩ := h
    exact ⟨{ u with place, vars, data, files, status }, own, default, own', default', rfl, rfl⟩

section Commands

theorem command_recredentialed (w : World) (h : s.Recredentialed t) {verb : String}
    (hdebug : verb ≠ "debug") (operands : List String) :
    (s.command w verb operands).Alike Recredentialed (t.command w verb operands) := by
  by_cases hconfig : verb = "config"
  · have hlisting : t.options.listing = s.options.listing := by
      obtain ⟨_, _, _, _, _, rfl, rfl⟩ := h
      rfl
    rw [hconfig]
    exact ⟨h, by simp only [command, Outcome.shows, hlisting], rfl⟩
  · exact command_alike congruence_recredentialed w h hconfig hdebug operands

/-- The credential of the options is one field of them. -/
theorem optionsShape_credential (o : Options) :
    ∃ before behind, ∀ credential, optionsShape { o with credential } =
      .record "SessionOptions" (before ++ ("basic_auth", .optional credential) :: behind) :=
  ⟨[("url", .quoted o.url), ("insecure", .flag o.insecure), ("color", .flag o.color),
    ("formatted", .flag o.formatted), ("verbose", .flag o.verbose),
    ("invert_color", .flag o.invert), ("shell", .flag o.shell)],
    [("histfile", .path o.histfile)], fun _ => rfl⟩

/-- The dump tells the credential of the options, and of the client's that it has one. -/
theorem dump_withCredentials_iff (s : Session) (own default own' default' : String) :
    (s.withCredentials own default).dump = (s.withCredentials own' default').dump ↔
      own = own' := by
  constructor
  · intro h
    dsimp only [dump, withCredentials, Client.setCredential, clientShape, envShape, dataShape,
      Option.map_some] at h
    -- the eight pieces behind the options are the same
    iterate 8 rw [String.append_left_inj] at h
    rw [String.append_right_inj] at h
    obtain ⟨before, behind, hoptions⟩ := optionsShape_credential s.options
    rw [hoptions, hoptions] at h
    exact Shape.text_optional_inj (Shape.text_record_field h)
  · rintro rfl
    rfl

end Commands

section Lines

theorem runArguments_recredentialed (w : World) (h : s.Recredentialed t) (hhttp : a.isHttp = false)
    (hdebug : ¬ (a.help = false ∧ a.verb = some "debug")) (summarize : Bool) :
    (s.runArguments w a summarize).Alike Recredentialed (t.runArguments w a summarize) := by
  cases kind a with
  | help hhelp =>
    rw [runArguments_of_help hhelp, runArguments_of_help hhelp]
    exact ⟨h, rfl, rfl⟩
  | silent hhelp hs =>
    rw [runArguments_of_silent hhelp hs, runArguments_of_silent hhelp hs]
    exact runNothing_alike congruence_recredentialed h
  | http _ hv hh =>
    rw [Arguments.isHttp, hv] at hhttp
    exact absurd (hh.symm.trans hhttp) (by decide)
  | command hhelp hv hne hh =>
    rw [runArguments_of_command hhelp hv hne hh, runArguments_of_command hhelp hv hne hh]
    have hverb : _ ≠ "debug" := fun he => hdebug ⟨hhelp, he ▸ hv⟩
    exact (command_recredentialed w h hverb a.operands).finished congruence_recredentialed

/-- A line that is neither a request nor asks for the dump shows the same whatever the
credentials are, and the sessions after it still differ in nothing else. -/
theorem runLine_recredentialed (w : World) (h : s.Recredentialed t) {line : String}
    (hline : ∀ a, s.Reads line a → a.isHttp = false ∧
      ¬ (a.help = false ∧ a.verb = some "debug")) :
    (s.runLine w line).session.Recredentialed (t.runLine w line).session ∧
      (t.runLine w line).notices = (s.runLine w line).notices := by
  unfold runLine
  cases hwords : splitWords line with
  | error fault => exact report_alike congruence_recredentialed ⟨h, rfl, rfl⟩
  | ok words =>
    have harguments : t.arguments words = s.arguments words := by
      obtain ⟨_, _, _, _, _, rfl, rfl⟩ := h
      rfl
    unfold runWords run
    dsimp only
    rw [harguments]
    cases ha : s.arguments words with
    | error e => exact report_alike congruence_recredentialed ⟨h, rfl, rfl⟩
    | ok a =>
      obtain ⟨hhttp, hdebug⟩ := hline a ⟨words, hwords, ha⟩
      exact report_alike congruence_recredentialed
        (runArguments_recredentialed w h hhttp hdebug true)

/-- The dump is all that its line shows. -/
theorem runLine_debug (w : World) (s : Session) {line : String} (hread : s.Reads line a)
    (hhelp : a.help = false) (hverb : a.verb = some "debug") :
    shownBy (s.runLine w line).notices = { err := s.dump ++ "\n" } := by
  rw [runLine_of_reads w hread,
    runArguments_of_command hhelp hverb (by decide) (by decide)]
  simp [command, Outcome.shows, Outcome.finished, report, shownBy, Notice.shown, Notice.line,
    String.join]

/-- A line that is no request shows the same in sessions that differ in their credentials only,
unless it asks for the dump and the options hold different ones. -/
theorem runLine_credentials_iff (w : World) (s : Session) {line : String}
    (hline : ∀ a, s.Reads line a → a.isHttp = false) (own default own' default' : String) :
    shownBy ((s.withCredentials own default).runLine w line).notices =
        shownBy ((s.withCredentials own' default').runLine w line).notices ↔
      own = own' ∨ ¬ ∃ a, s.Reads line a ∧ a.help = false ∧ a.verb = some "debug" := by
  by_cases hdebug : ∃ a, s.Reads line a ∧ a.help = false ∧ a.verb = some "debug"
  · rw [or_iff_left (not_not_intro hdebug)]
    obtain ⟨a, hread, hhelp, hverb⟩ := hdebug
    rw [runLine_debug w (s.withCredentials own default) hread hhelp hverb,
      runLine_debug w (s.withCredentials own' default') hread hhelp hverb]
    simp only [Shown.mk.injEq, true_and, String.append_left_inj, dump_withCredentials_iff]
  · have hrecredentialed : (s.withCredentials own default).Recredentialed
        (s.withCredentials own' default') := ⟨s, own, default, own', default', rfl, rfl⟩
    have hquiet : ∀ a, s.Reads line a → a.isHttp = false ∧
        ¬ (a.help = false ∧ a.verb = some "debug") :=
      fun a hread => ⟨hline a hread, fun h => hdebug ⟨a, hread, h⟩⟩
    obtain ⟨-, hnotices⟩ := runLine_recredentialed w hrecredentialed hquiet
    exact iff_of_true (by rw [hnotices]) (.inr hdebug)

/-- The listing of the options shows the same whatever the credential is. -/
theorem runLine_credentials_config :
    (∀ a, fresh.Reads "config" a → a.isHttp = false) ∧
    shownBy ((fresh.withCredentials "jo:a" "jo:a").runLine answering "config").notices =
      shownBy ((fresh.withCredentials "jo:b" "jo:b").runLine answering "config").notices := by
  have hread : fresh.Reads "config" { verb := some "config" } :=
    ⟨["config"], by decide +kernel, by decide +kernel⟩
  have hline : ∀ a, fresh.Reads "config" a → a.isHttp = false := by
    intro a ha
    rw [ha.unique hread]
    decide
  refine ⟨hline, (runLine_credentials_iff answering fresh hline _ _ _ _).2 (.inr ?_)⟩
  rintro ⟨a, ha, -, hverb⟩
  rw [ha.unique hread] at hverb
  exact absurd hverb (by decide)

/-- The dump shows the credential of the options. -/
theorem runLine_credentials_dumped :
    shownBy ((fresh.withCredentials "jo:a" "jo:a").runLine answering "debug").notices ≠
      shownBy ((fresh.withCredentials "jo:b" "jo:b").runLine answering "debug").notices := by
  have hread : fresh.Reads "debug" { verb := some "debug" } :=
    ⟨["debug"], by decide +kernel, by decide +kernel⟩
  rw [runLine_debug answering (fresh.withCredentials "jo:a" "jo:a") hread rfl rfl,
    runLine_debug answering (fresh.withCredentials "jo:b" "jo:b") hread rfl rfl]
  intro h
  simp only [Shown.mk.injEq, true_and, String.append_left_inj, dump_withCredentials_iff] at h
  exact absurd h (by decide)

end Lines
end Session
end RestShell
