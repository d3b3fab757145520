import RestShell.Proofs.Client.UrlMass
import RestShell.Proofs.Session.Separation

/-! The query in the path word of a request. The word is normalised and walked as a whole before
its query is cut off, so the query goes out as it was typed just when normalising and walking
leave it alone. -/

namespace RestShell
namespace Session
variable {w : World} {s : Session} {a : Arguments} {req : Request}

/-- A request that was sent has the URL of its path under the base URL that is left. -/
theorem send_url {verb : String} {summarize : Bool}
    (h : (s.send w verb a summarize).session.client.sent = s.client.sent ++ [req]) :
    ∃ path, s.place.resolve (a.path.getD "") = .ok path ∧
      req.url = (s.send w verb a summarize).session.client.buildUrl
        (if path = "" then "/" else path)
        (Client.requestQuery (Client.isBodiless (Client.effectiveMethod verb))
          (s.requestOptions a)) := by
  rcases send_cases w s verb a summarize with ⟨e, -, he⟩ | ⟨t, e, hu, -, he⟩ |
    ⟨t, path, hu, hp, he⟩ <;> rw [he] at h ⊢
  · simp [Outcome.fails] at h
  · obtain ⟨options, base, rfl⟩ := withUrl_reconfigured hu
    simp [Outcome.fails] at h
  · have hbase := exchanged_base w t verb path a summarize
    rw [exchanged_sent] at h
    obtain ⟨options, base, rfl⟩ := withUrl_reconfigured hu
    obtain rfl := (List.cons.inj (List.append_cancel_left h)).1
    refine ⟨path, hp, ?_⟩
    simp only [Client.buildUrl, hbase]
    rfl

/-- A line that sends a request can be read, and leaves the client as sending its arguments does
if they have a verb that is sent. -/
theorem runLine_sent {line : String}
    (h : (s.runLine w line).session.client.sent = s.client.sent ++ [req]) :
    ∃ a, s.Reads line a ∧
      ∀ verb, a.verb = some verb → isHttpVerb verb = true →
        (s.runLine w line).session.client = (s.send w verb a true).session.client := by
  have hunsent : ∀ s' : Session, s'.client = s.client →
      s'.client.sent ≠ s.client.sent ++ [req] := by
    intro s' hs he
    rw [hs] at he
    simp at he
  rcases runLine_cases w s line with ⟨a, hr, -⟩ | he
  · refine ⟨a, hr, fun verb hv hh => ?_⟩
    have hclient : (s.runLine w line).session.client =
        (s.runArguments w a true).session.client := by
      rw [runLine_of_reads w hr]
      rcases report_session (s.runArguments w a true) with he | he <;> rw [he]
      rfl
    rw [hclient] at h ⊢
    by_cases hhelp : a.help = true
    · exact absurd h (hunsent _ (by rw [runArguments_of_help hhelp]; rfl))
    · rw [runArguments_of_http (by simpa using hhelp) hv hh]
  · exact absurd h (hunsent _ (by rw [he]; rfl))

/-- A request goes out with the path of its word resolved and the query of the word as it was
typed, before the one of flags and parameters, just when the query is one that normalising and
walking leave as it is. -/
theorem runLine_query_iff {line verb p q : String} {words rest : List String}
    (hwords : splitWords line = .ok words)
    (hbare : Arguments.bareWords (words.flatMap unbundle) = verb :: (p ++ "?" ++ q) :: rest)
    (hverb : isHttpVerb (canonicalVerb (Text.lower verb)) = true) (hp : s.place.Steady p)
    (hsent : (s.runLine w line).session.client.sent = s.client.sent ++ [req]) :
    ∃ a r, s.Reads line a ∧ s.place.resolve p = .ok r ∧
      (req.url = (s.runLine w line).session.client.buildUrl (r ++ "?" ++ q)
          (Client.requestQuery
            (Client.isBodiless (Client.effectiveMethod (canonicalVerb (Text.lower verb))))
            (s.requestOptions a)) ↔
        Chars.Verbatim q.toList) := by
  obtain ⟨a, hr, hclient⟩ := runLine_sent hsent
  obtain ⟨words', hwords', ha⟩ := hr
  obtain rfl := Except.ok.inj (hwords.symm.trans hwords')
  obtain ⟨hv, hpath⟩ := Arguments.scan_bareWords rfl rfl hbare hverb ha
  have hsend := hclient _ hv hverb
  rw [hsend] at hsent ⊢
  obtain ⟨there, hthere, hurl⟩ := send_url hsent
  rw [hpath, Option.getD_some] at hthere
  obtain ⟨r, hres, ⟨hroot, hspaced, hblank⟩, hhead, hkept, hlost⟩ :=
    Location.resolve_query hp hthere
  have hne : there ≠ "" := by
    rintro rfl
    cases hhead
  rw [if_neg hne] at hurl
  refine ⟨a, r, ⟨words, hwords, ha⟩, hres, fun he => ?_, fun hq => ?_⟩
  · by_contra hq
    rw [hurl] at he
    exact Client.buildUrl_ne_of_mass _ hroot hspaced hblank hhead (hlost hq) _ he
  · rw [hurl, hkept hq]

/-- A query with slashes between its names stays, before the one of a flag. -/
theorem runLine_query_docs :
    let s' := (fresh.runLine answering "get docs/?a=/b/ -Q c=d").session
    ∃ req a, s'.client.sent = [req] ∧ fresh.Reads "get docs/?a=/b/ -Q c=d" a ∧
      req.url = s'.client.buildUrl "/docs/?a=/b/"
        (Client.requestQuery (Client.isBodiless (Client.effectiveMethod "get"))
          (fresh.requestOptions a)) := by
  have hwords : splitWords "get docs/?a=/b/ -Q c=d" = .ok ["get", "docs/?a=/b/", "-Q", "c=d"] := by
    decide +kernel
  have hbare : Arguments.bareWords (["get", "docs/?a=/b/", "-Q", "c=d"].flatMap unbundle) =
      ["get", "docs/" ++ "?" ++ "a=/b/"] := by
    decide +kernel
  have hblank : ("docs/".toList ++ fresh.place.current.toList).all (fun c => !Chars.isBlank c) =
      true := by decide
  have hp : fresh.place.Steady "docs/" := by
    simp only [List.all_append, Bool.and_eq_true, List.all_eq_true, Bool.not_eq_true'] at hblank
    exact ⟨by decide, by decide, by decide +kernel, hblank.1, fun _ => hblank.2⟩
  have hsent : (fresh.runLine answering "get docs/?a=/b/ -Q c=d").session.client.sent =
      fresh.client.sent ++ [⟨"GET", "http://api.test/docs/?a=/b/&c=d",
        [("Content-Type", "application/json"), ("Accept", "application/json")], none⟩] := by
    decide +kernel
  have hq : Chars.Verbatim "a=/b/".toList := by
    refine ⟨by unfold Chars.Spaced; decide, by decide, by decide, fun r hr => ?_⟩
    obtain rfl : "a=/b".toList = r := List.append_cancel_right hr
    decide
  obtain ⟨a, r, ha, hr, hiff⟩ :=
    runLine_query_iff hwords hbare (by decide) hp hsent
  have hdocs : fresh.place.resolve "docs/" = .ok "/docs/" := by decide +kernel
  obtain rfl : "/docs/" = r := Except.ok.inj (hdocs.symm.trans hr)
  exact ⟨_, a, hsent, ha, hiff.2 hq⟩

/-- Slashes in a query are run together, and dots in it lead out of it. -/
theorem runLine_query_walked :
    (ofOptions fresh.options [] = .ok fresh ∧ fresh.place.resolve "/go" = .ok "/go") ∧
    ((fresh.runLine answering "get /go?to=a//b").session.client.sent.map Request.url =
        ["http://api.test/go?to=a/b"] ∧
      (fresh.runLine answering "get /go?to=a//b").session.client.buildUrl
        ("/go" ++ "?" ++ "to=a//b") none = "http://api.test/go?to=a//b") ∧
    ((fresh.runLine answering "get /go?to=/../x").session.client.sent.map Request.url =
        ["http://api.test/x"] ∧
      (fresh.runLine answering "get /go?to=/../x").session.client.buildUrl
        ("/go" ++ "?" ++ "to=/../x") none = "http://api.test/go?to=/../x") := by
  refine ⟨⟨by rfl, by decide +kernel⟩, ⟨?_, ?_⟩, ?_, ?_⟩ <;> decide +kernel

end Session
end RestShell
