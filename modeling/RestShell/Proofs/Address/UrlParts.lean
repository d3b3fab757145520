import RestShell.Proofs.Address.UrlTarget
import RestShell.Proofs.Text.Numeral

/-! The parts of a base URL. A text is put together of a scheme, a host and a target in one way, and
what is read from it is what these parts name. Refused are no text, a scheme that is not spoken and
a port that is none. -/

namespace RestShell
namespace Url
open Chars

/-- A text divided at the marks of a URL, each part as it is written, `none` where its mark is
not. -/
structure Parts where
  scheme : Option (List Char)
  name : List Char
  port : Option (List Char)
  rest : Option (List Char)
  target : Target

namespace Parts

/-- The scheme with the mark behind it. -/
def lead : Option (List Char) → List Char
  | none => []
  | some scheme => scheme ++ [':', '/', '/']

def host (p : Parts) : List Char := p.name ++ opened ':' p.port

/-- The parts put together again. -/
def text (p : Parts) : List Char := lead p.scheme ++ p.host ++ opened '/' p.rest

/-- The parts of a text: a scheme of word characters, wherever `://` stands behind some, and
otherwise none; a host up to the first slash, divided at its first colon; and the target. -/
structure Divides (p : Parts) (cs : List Char) : Prop where
  text : p.text = cs
  scheme : ∀ w, p.scheme = some w → w ≠ [] ∧ ∀ c ∈ w, isWord c = true
  bare : p.scheme = none → ∀ w r, w ≠ [] → (∀ c ∈ w, isWord c = true) →
    cs ≠ w ++ [':', '/', '/'] ++ r
  host : '/' ∉ p.host
  name : ':' ∉ p.name
  target : p.target.Lawful
  rest : p.target.text = '/' :: p.rest.getD []

variable {p q : Parts} {cs : List Char}

theorem colon_notMem {w : List Char} (h : ∀ c ∈ w, isWord c = true) : ':' ∉ w := by
  intro hc
  have hword := h ':' hc
  revert hword
  decide

theorem splitScheme_lead {w : List Char} (hne : w ≠ []) (h : ∀ c ∈ w, isWord c = true)
    (r : List Char) : splitScheme (w ++ [':', '/', '/'] ++ r) = (lower w, r) := by
  have htake : (w ++ ':' :: '/' :: '/' :: r).takeWhile isWord = w := by
    rw [List.takeWhile_append_of_pos h, List.takeWhile_cons_of_neg (by decide), List.append_nil]
  have hdrop : (w ++ ':' :: '/' :: '/' :: r).dropWhile isWord = ':' :: '/' :: '/' :: r := by
    rw [List.dropWhile_append_of_pos h, List.dropWhile_cons_of_neg (by decide)]
  simp [splitScheme, htake, hdrop, hne]

theorem splitScheme_bare (h : ∀ w r, w ≠ [] → (∀ c ∈ w, isWord c = true) →
    cs ≠ w ++ [':', '/', '/'] ++ r) : splitScheme cs = (['h', 't', 't', 'p'], cs) := by
  have hword : ∀ c ∈ cs.takeWhile isWord, isWord c = true := fun c hc => List.mem_takeWhile_imp hc
  have hcs : cs.takeWhile isWord ++ cs.dropWhile isWord = cs := List.takeWhile_append_dropWhile
  rw [splitScheme]
  split
  · rename_i r hr
    split
    · rfl
    · rename_i hne
      refine absurd ?_ (h _ r hne hword)
      rw [hr] at hcs
      simpa using hcs.symm
  · rfl

/-- What the parts are for reading: the scheme in lower case or `http`, and what is not written
empty. -/
def division (p : Parts) : Division where
  scheme := (p.scheme.map lower).getD ['h', 't', 't', 'p']
  name := p.name
  port := p.port
  path := p.target.path
  params := p.target.params.getD []
  query := p.target.query.getD []
  fragment := p.target.fragment.getD []

theorem Divides.splitScheme (h : p.Divides cs) :
    splitScheme cs = (p.division.scheme, p.host ++ opened '/' p.rest) := by
  rw [← h.text, Parts.text, List.append_assoc]
  cases hscheme : p.scheme with
  | none =>
    have hcs : cs = p.host ++ opened '/' p.rest := by simp [← h.text, Parts.text, hscheme, lead]
    simpa [lead, division, hscheme] using splitScheme_bare (hcs ▸ h.bare hscheme)
  | some w =>
    obtain ⟨hne, hword⟩ := h.scheme w hscheme
    simpa [lead, division, hscheme] using splitScheme_lead hne hword (p.host ++ opened '/' p.rest)

/-- Reading divides a text into its parts. -/
theorem Divides.division_eq (h : p.Divides cs) : Division.of cs = p.division := by
  have hname : cut ':' p.host = p.port.map (p.name, ·) := cut_opened h.name p.port
  -- the marks of the target are sought behind its slash, and it begins with no other mark
  obtain ⟨r, hr⟩ : ∃ r, p.target.path = '/' :: r := by
    obtain ⟨t, ht⟩ := List.head?_eq_some_iff.1 h.target.lead
    exact ⟨t, ht⟩
  have hrest : p.rest.getD [] =
      r ++ opened ';' p.target.params ++ opened '?' p.target.query ++
        opened '#' p.target.fragment := by
    have htext := h.rest
    rw [Target.text, hr] at htext
    simpa using htext.symm
  have hhash := h.target.hash
  have hquestion := h.target.question
  have hparams := h.target.splitParams
  rw [hr] at hhash hquestion hparams
  simp only [List.cons_append, List.mem_cons, not_or] at hhash hquestion hparams
  simp only [Division.of, h.splitScheme, cut_opened_getD h.host, hname, hrest,
    cut_opened_getD hhash.2, cut_opened_getD hquestion.2, hparams, division, hr]
  cases hport : p.port <;> simp [Parts.host, hport]

/-- Where one scheme stands before its mark, another one stands nowhere else. -/
theorem Divides.lead_cancel (hp : p.Divides cs) (hq : q.Divides cs) : p.scheme = q.scheme ∧
    p.host ++ opened '/' p.rest = q.host ++ opened '/' q.rest := by
  have htext : lead p.scheme ++ (p.host ++ opened '/' p.rest) =
      lead q.scheme ++ (q.host ++ opened '/' q.rest) := by
    have h := hp.text.trans hq.text.symm
    rwa [Parts.text, Parts.text, List.append_assoc, List.append_assoc] at h
  cases hw : p.scheme with
  | none =>
    cases hv : q.scheme with
    | none => exact ⟨rfl, by simpa [hw, hv, lead] using htext⟩
    | some v =>
      obtain ⟨hne, hword⟩ := hq.scheme v hv
      refine absurd ?_ (hp.bare hw v (q.host ++ opened '/' q.rest) hne hword)
      simp [← hq.text, Parts.text, hv, lead]
  | some w =>
    obtain ⟨hne, hword⟩ := hp.scheme w hw
    cases hv : q.scheme with
    | none =>
      refine absurd ?_ (hq.bare hv w (p.host ++ opened '/' p.rest) hne hword)
      simp [← hp.text, Parts.text, hw, lead]
    | some v =>
      have hcolon : ':' ∉ v := colon_notMem (hq.scheme v hv).2
      have hcancel := append_cons_cancel (colon_notMem hword) hcolon
        (by simpa [hw, hv, lead] using htext)
      simpa using hcancel

/-- A text has its parts in one way only. -/
theorem Divides.unique (hp : p.Divides cs) (hq : q.Divides cs) : p = q := by
  obtain ⟨hscheme, hbehind⟩ := hp.lead_cancel hq
  obtain ⟨hhost, hrest⟩ := opened_cancel hp.host hq.host hbehind
  obtain ⟨hname, hport⟩ := opened_cancel hp.name hq.name hhost
  have htarget : p.target = q.target := by
    refine hp.target.cancel hq.target ?_
    rw [hp.rest, hq.rest, hrest]
  cases p
  cases q
  simp_all

theorem exists_lead (cs : List Char) : ∃ scheme behind, cs = lead scheme ++ behind ∧
    (∀ w, scheme = some w → w ≠ [] ∧ ∀ c ∈ w, isWord c = true) ∧
    (scheme = none → ∀ w r, w ≠ [] → (∀ c ∈ w, isWord c = true) →
      cs ≠ w ++ [':', '/', '/'] ++ r) := by
  by_cases h : ∃ w r, w ≠ [] ∧ (∀ c ∈ w, isWord c = true) ∧ cs = w ++ [':', '/', '/'] ++ r
  · obtain ⟨w, r, hne, hword, hcs⟩ := h
    refine ⟨some w, r, hcs, ?_, nofun⟩
    intro v hv
    cases hv
    exact ⟨hne, hword⟩
  · exact ⟨none, cs, rfl, nofun, fun _ w r hne hword hcs => h ⟨w, r, hne, hword, hcs⟩⟩

/-- Every text has parts. -/
theorem exists_divides (cs : List Char) : ∃ p : Parts, p.Divides cs := by
  obtain ⟨scheme, behind, hcs, hscheme, hbare⟩ := exists_lead cs
  obtain ⟨host, rest, hbehind, hhost⟩ := exists_opened '/' behind
  obtain ⟨name, port, hname, hcolon⟩ := exists_opened ':' host
  have hlead : ('/' :: rest.getD []).head? = some '/' := rfl
  obtain ⟨target, htarget, htext⟩ := Target.exists_lawful hlead
  subst hname hbehind
  exact ⟨⟨scheme, name, port, rest, target⟩,
    ⟨by simp [Parts.text, Parts.host, hcs], hscheme, hbare, hhost, hcolon, htarget, htext⟩⟩

/-- A URL has what the parts name: the scheme in lower case, or `http`; the host in lower case, or
`localhost`; the port, or the one of the scheme; and the target as it is written. -/
structure Names (p : Parts) (u : Url) : Prop where
  scheme : u.scheme.toList = (p.scheme.map lower).getD ['h', 't', 't', 'p']
  spoken : u.scheme = "http" ∨ u.scheme = "https"
  hostname : u.hostname.toList = if p.name = [] then "localhost".toList else lower p.name
  port : ∀ text, p.port = some text → 1 ≤ u.port ∧ u.port ≤ 65535 ∧ Numeral (trim text) u.port
  defaultPort : p.port = none → u.port = if u.scheme = "https" then 443 else 80
  path : u.path.toList = p.target.path
  params : u.params.toList = p.target.params.getD []
  query : u.query.toList = p.target.query.getD []
  fragment : u.fragment.toList = p.target.fragment.getD []

end Parts

theorem readPort_eq_ok_iff {text : List Char} {n : Nat} :
    readPort text = .ok n ↔ 1 ≤ n ∧ n ≤ 65535 ∧ Numeral (trim text) n := by
  rw [← integer?_eq_some_iff]
  cases h : integer? (trim text) with
  | none => simp [readPort, h]
  | some z =>
    simp only [readPort, h, Option.some.injEq]
    split
    · rename_i hfar
      simp only [Option.filter_eq_none_iff, Option.some.injEq, forall_eq', Bool.and_eq_true,
        decide_eq_true_eq] at hfar
      simp only [reduceCtorEq, false_iff]
      omega
    · rename_i m hm
      obtain rfl : m = z := by simpa using (Option.filter_eq_some_iff.1 hm).1.symm
      split
      · simp only [Except.ok.injEq]
        omega
      · simp only [reduceCtorEq, false_iff]
        omega

theorem portNumber_eq_ok_iff {d : Division} {n : Nat} : d.portNumber = .ok n ↔
    (∀ text, d.port = some text → 1 ≤ n ∧ n ≤ 65535 ∧ Numeral (trim text) n) ∧
      (d.port = none → n = (defaultPort? (.ofList d.scheme)).getD 80) := by
  unfold Division.portNumber
  cases d.port with
  | none => simp [eq_comm]
  | some text => simp [readPort_eq_ok_iff]

theorem defaultPort?_getD {scheme : String} (h : scheme = "http" ∨ scheme = "https") :
    (defaultPort? scheme).getD 80 = if scheme = "https" then 443 else 80 := by
  rcases h with rfl | rfl <;> rfl

/-- The parts name what their division gives with its port. -/
theorem Parts.names_iff {p : Parts} {u : Url} : p.Names u ↔
    ∃ port, p.division.portNumber = .ok port ∧
      (defaultPort? (.ofList p.division.scheme)).isSome ∧ u = p.division.url port := by
  constructor
  · intro h
    have hscheme : String.ofList p.division.scheme = u.scheme := by
      rw [← String.toList_inj, String.toList_ofList, h.scheme]
      rfl
    refine ⟨u.port, portNumber_eq_ok_iff.2 ⟨h.port, fun hport => ?_⟩, ?_, ?_⟩
    · rw [hscheme, defaultPort?_getD h.spoken]
      exact h.defaultPort hport
    · rw [hscheme, defaultPort?_isSome_iff]
      exact h.spoken
    · have hhostname : u.hostname =
          if p.name = [] then "localhost" else .ofList (lower p.name) := by
        rw [← String.toList_inj, h.hostname]
        split <;> simp
      have hpath : u.path = .ofList p.target.path := by rw [← h.path, String.ofList_toList]
      have hparams : u.params = .ofList (p.target.params.getD []) := by
        rw [← h.params, String.ofList_toList]
      have hquery : u.query = .ofList (p.target.query.getD []) := by
        rw [← h.query, String.ofList_toList]
      have hfragment : u.fragment = .ofList (p.target.fragment.getD []) := by
        rw [← h.fragment, String.ofList_toList]
      cases u
      exact Url.mk.injEq .. |>.mpr
        ⟨hscheme.symm, hhostname, rfl, hpath, hparams, hquery, hfragment⟩
  · rintro ⟨port, hport, hspoken, rfl⟩
    have hscheme := (defaultPort?_isSome_iff _).1 hspoken
    obtain ⟨hgiven, hdefault⟩ := portNumber_eq_ok_iff.1 hport
    exact
      { scheme := by simp [Division.url, division]
        spoken := hscheme
        hostname := by
          by_cases hname : p.name = [] <;> simp [Division.url, division, hname]
        port := hgiven
        defaultPort := fun hnone => (hdefault hnone).trans (defaultPort?_getD hscheme)
        path := by simp [Division.url, division]
        params := by simp [Division.url, division]
        query := by simp [Division.url, division]
        fragment := by simp [Division.url, division] }

/-- A text is read just when it is not empty and its parts name a URL, and that is what is read. -/
theorem read_eq_ok_iff_names {s : String} {p : Parts} (h : p.Divides (trim s.toList)) {u : Url} :
    read s = .ok u ↔ trim s.toList ≠ [] ∧ p.Names u := by
  rw [read_eq_ok_iff, h.division_eq, Parts.names_iff]

/-- Parts name a URL unless their scheme is not spoken or their port is none. -/
theorem Parts.exists_names_iff {p : Parts} : (∃ u, p.Names u) ↔
    (∀ w, p.scheme = some w → lower w = "http".toList ∨ lower w = "https".toList) ∧
      ∀ text, p.port = some text → ∃ n : Nat, 1 ≤ n ∧ n ≤ 65535 ∧ Numeral (trim text) n := by
  constructor
  · rintro ⟨u, h⟩
    refine ⟨fun w hw => ?_, fun text htext => ⟨u.port, h.port text htext⟩⟩
    have hscheme : u.scheme.toList = lower w := by simp [h.scheme, hw]
    rcases h.spoken with hspoken | hspoken
    · exact .inl (by rw [← hscheme, hspoken])
    · exact .inr (by rw [← hscheme, hspoken])
  · rintro ⟨hscheme, hport⟩
    have hspoken : (defaultPort? (.ofList p.division.scheme)).isSome := by
      rw [defaultPort?_isSome_iff, ← String.toList_inj, ← String.toList_inj, String.toList_ofList]
      cases hw : p.scheme with
      | none => simp [division, hw]
      | some w => simpa [division, hw] using hscheme w hw
    have hnumber : ∃ n, p.division.portNumber = .ok n := by
      cases htext : p.port with
      | none => exact ⟨_, portNumber_eq_ok_iff.2 ⟨by simp [division, htext], fun _ => rfl⟩⟩
      | some text =>
        obtain ⟨n, hn⟩ := hport text htext
        exact ⟨n, portNumber_eq_ok_iff.2 ⟨by simpa [division, htext] using hn,
          by simp [division, htext]⟩⟩
    obtain ⟨n, hn⟩ := hnumber
    exact ⟨_, names_iff.2 ⟨n, hn, hspoken, rfl⟩⟩

theorem input_of_read_error {s : String} {e : Invalid} (h : read s = .error e) :
    e.input = Text.trim s := by
  simp only [read, Except.mapError] at h
  split at h <;> cases h
  rfl

/-- Every text is put together of parts in one way. It is refused, under its trimmed form, just when
it is blank, when its scheme is neither `http` nor `https` or when its port is no number from 1 to
65535; otherwise the URL that is read has what the parts name and loses nothing of them. -/
theorem read_parts (s : String) : ∃ p : Parts, p.Divides (trim s.toList) ∧
    (∀ q : Parts, q.Divides (trim s.toList) → q = p) ∧
    ((∃ e, read s = .error e) ↔ trim s.toList = [] ∨
      (∃ w, p.scheme = some w ∧ lower w ≠ "http".toList ∧ lower w ≠ "https".toList) ∨
      ∃ text, p.port = some text ∧ ¬ ∃ n : Nat, 1 ≤ n ∧ n ≤ 65535 ∧ Numeral (trim text) n) ∧
    (∀ e, read s = .error e → e.input = Text.trim s) ∧
    ∀ u, read s = .ok u → p.Names u := by
  obtain ⟨p, hp⟩ := Parts.exists_divides (trim s.toList)
  refine ⟨p, hp, fun q hq => hq.unique hp, ?_, fun e he => input_of_read_error he,
    fun u hu => ((read_eq_ok_iff_names hp).1 hu).2⟩
  have hread : (∃ e, read s = .error e) ↔ ¬ ∃ u, read s = .ok u := by
    cases read s <;> simp
  have hok : (∃ u, read s = .ok u) ↔ trim s.toList ≠ [] ∧ ∃ u, p.Names u := by
    simp only [read_eq_ok_iff_names hp, exists_and_left]
  rw [hread, hok, Parts.exists_names_iff]
  simp only [not_and_or, not_not, not_forall, not_or, exists_prop]

/-- Only the last segment of a path has parameters. -/
example : read "h/a;b/c;v?q#f" = .ok ⟨"http", "h", 80, "/a;b/c", "v", "q", "f"⟩ := by
  decide +kernel

end Url
end RestShell
