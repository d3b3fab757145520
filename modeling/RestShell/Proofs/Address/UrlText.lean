import RestShell.Proofs.Address.Splice
import RestShell.Proofs.Address.UrlParts
import RestShell.Proofs.Text.LowerCase

/-! Base URLs as they are written. The scheme, the host and the port of a URL that was read stand
before any target as they stood in the URL, so they are read again from there, and the target as it
is written behind them. In particular a URL is read again from its own text. -/

namespace RestShell
namespace Chars

/-- A text that neither begins nor ends with a blank is not trimmed. -/
theorem trim_of_ends {cs : List Char} (hhead : ∀ c, cs.head? = some c → isBlank c = false)
    (hlast : ∀ c, cs.getLast? = some c → isBlank c = false) : trim cs = cs := by
  have hstart {ds : List Char} (h : ∀ c, ds.head? = some c → isBlank c = false) :
      trimStart ds = ds := by
    cases ds with
    | nil => rfl
    | cons c r => simp [trimStart, h c rfl]
  rw [trim, hstart hhead, trimEnd, hstart (by simpa using hlast), List.reverse_reverse]

theorem notBlank_of_isDecimal {c : Char} (h : isDecimal c = true) : isBlank c = false := by
  obtain ⟨d, hd, rfl⟩ := isDecimal_iff.1 h
  have hall : ∀ d < 10, isBlank (Nat.digitChar d) = false := by decide
  exact hall d hd

theorem isDecimal_of_mem_toDigits {c : Char} {n : Nat} (h : c ∈ Nat.toDigits 10 n) :
    isDecimal c = true := by
  have hpadded : c ∈ padded 0 n := h
  exact isDecimal_of_mem_padded hpadded

end Chars

namespace Url
open Chars

/-- What holds of every URL that was read, its target apart. -/
structure Sound (u : Url) : Prop where
  scheme : u.scheme = "http" ∨ u.scheme = "https"
  hostname : u.hostname.toList ≠ []
  lower : Chars.lower u.hostname.toList = u.hostname.toList
  marks : ':' ∉ u.hostname.toList ∧ '/' ∉ u.hostname.toList
  port : 1 ≤ u.port ∧ u.port ≤ 65535

variable {s : String} {u : Url} {g : Target}

theorem sound_of_read (h : read s = .ok u) : u.Sound := by
  obtain ⟨p, hp⟩ := Parts.exists_divides (trim s.toList)
  have hnames : p.Names u := ((read_eq_ok_iff_names hp).1 h).2
  have hhost : ':' ∉ p.name ∧ '/' ∉ p.name := by
    refine ⟨hp.name, fun hslash => hp.host ?_⟩
    exact List.mem_append_left _ hslash
  have hname := hnames.hostname
  refine ⟨hnames.spoken, ?_, ?_, ?_, ?_⟩
  · rw [hname]
    split
    · decide
    · exact lower_ne_nil ‹_›
  · rw [hname]
    split
    · decide +kernel
    · exact lower_lower p.name
  · rw [hname]
    split
    · decide
    · exact ⟨fun hc => hhost.1 (mem_of_mem_lowerAfter hc (by decide) (by decide)),
        fun hc => hhost.2 (mem_of_mem_lowerAfter hc (by decide) (by decide))⟩
  · cases hport : p.port with
    | none =>
      rw [hnames.defaultPort hport]
      split <;> decide
    | some text => exact ⟨(hnames.port text hport).1, (hnames.port text hport).2.1⟩

/-- The URL with another target. -/
def withTarget (u : Url) (g : Target) : Url :=
  { u with
    path := .ofList g.path
    params := .ofList (g.params.getD [])
    query := .ofList (g.query.getD [])
    fragment := .ofList (g.fragment.getD []) }

/-- The parts of a text that begins like the text of a URL and goes on with a target. -/
def partsBefore (u : Url) (g : Target) : Parts where
  scheme := some u.scheme.toList
  name := u.hostname.toList
  port := if u.hasDefaultPort then none else some (Nat.toDigits 10 u.port)
  rest := some g.text.tail
  target := g

theorem toList_portText (u : Url) :
    (if u.hasDefaultPort then "" else ":" ++ toString u.port).toList =
      opened ':' (if u.hasDefaultPort then none else some (Nat.toDigits 10 u.port)) := by
  split <;> simp

theorem Target.Lawful.slash (hg : g.Lawful) : g.text = '/' :: g.text.tail := by
  obtain ⟨r, hr⟩ := List.head?_eq_some_iff.1 hg.lead
  simp [Target.text, hr]

theorem Sound.divides (hu : u.Sound) (hg : g.Lawful) :
    (u.partsBefore g).Divides (u.origin.toList ++ g.text) where
  text := by
    have htail := hg.slash
    simp only [Parts.text, Parts.host, partsBefore, Parts.lead, opened_some, origin,
      String.toList_append, toList_portText, ← htail]
    simp
  scheme w hw := by
    cases hw
    have hword : u.scheme.toList.all isWord = true := by
      rcases hu.scheme with h | h <;> rw [h] <;> decide +kernel
    have hne : u.scheme.toList ≠ [] := by
      rcases hu.scheme with h | h <;> rw [h] <;> decide
    exact ⟨hne, List.all_eq_true.1 hword⟩
  bare := nofun
  host := by
    have hport : '/' ∉ opened ':' (u.partsBefore g).port := by
      refine notMem_opened (by decide) fun part hpart hslash => ?_
      have hdigits : Nat.toDigits 10 u.port = part := by
        simpa [partsBefore] using (Option.ite_none_left_eq_some.1 hpart).2
      exact absurd (isDecimal_of_mem_toDigits (hdigits ▸ hslash)) (by decide)
    have hname : '/' ∉ (u.partsBefore g).name := hu.marks.2
    simp [Parts.host, hname, hport]
  name := hu.marks.1
  target := hg
  rest := hg.slash

theorem Sound.names (hu : u.Sound) (g : Target) : (u.partsBefore g).Names (u.withTarget g) where
  scheme := by
    rcases hu.scheme with h | h <;> simp only [withTarget, partsBefore, h] <;> decide +kernel
  spoken := hu.scheme
  hostname := (hu.lower.symm).trans (if_neg hu.hostname).symm
  port text htext := by
    have hdigits : Nat.toDigits 10 u.port = text := by
      simpa [partsBefore] using (Option.ite_none_left_eq_some.1 htext).2
    have htrim : trim text = text :=
      trim_eq_self fun c hc => notBlank_of_isDecimal (isDecimal_of_mem_toDigits (hdigits ▸ hc))
    rw [htrim, ← hdigits]
    exact ⟨hu.port.1, hu.port.2, Numeral.plain 0 u.port⟩
  defaultPort hnone := by
    have hdefault : defaultPort? u.scheme = some u.port := by
      simpa [partsBefore, hasDefaultPort] using hnone
    have hport := defaultPort?_getD hu.scheme
    rw [hdefault] at hport
    exact hport
  path := String.toList_ofList
  params := String.toList_ofList
  query := String.toList_ofList
  fragment := String.toList_ofList

theorem Sound.head?_origin (hu : u.Sound) (cs : List Char) :
    (u.origin.toList ++ cs).head? = some 'h' := by
  rcases hu.scheme with h | h <;> simp [origin, h]

/-- Behind the beginning of a URL a target is read as it is written. -/
theorem Sound.read_target (hu : u.Sound) (hg : g.Lawful) {text : String}
    (htext : trim text.toList = u.origin.toList ++ g.text) :
    read text = .ok (u.withTarget g) := by
  have hdivides : (u.partsBefore g).Divides (trim text.toList) := htext ▸ hu.divides hg
  refine (read_eq_ok_iff_names hdivides).2 ⟨?_, hu.names g⟩
  have hhead := hu.head?_origin g.text
  intro hnil
  rw [htext] at hnil
  rw [hnil] at hhead
  cases hhead

/-- A part as its URL shows it: behind its mark, or not at all. -/
def shown (part : String) : Option (List Char) := if part = "" then none else some part.toList

theorem toList_marked (mark : Char) (part : String) :
    (marked (.singleton mark) part).toList = opened mark (shown part) := by
  unfold marked shown
  split <;> simp

theorem getD_shown (part : String) : (shown part).getD [] = part.toList := by
  unfold shown
  split
  · rename_i h
    simp [h]
  · rfl

/-- A part that is shown was written. -/
theorem written_of_shown {part : String} {o : Option (List Char)} {cs : List Char}
    (h : part.toList = o.getD []) (hcs : shown part = some cs) : o = some cs := by
  obtain ⟨hne, hpart⟩ := Option.ite_none_left_eq_some.1 hcs
  rw [Option.some.injEq] at hpart
  cases o with
  | none =>
    rw [Option.getD_none, String.toList_eq_nil_iff] at h
    exact absurd h hne
  | some ds => rw [← hpart, h, Option.getD_some]

/-- The target of a URL. -/
def target (u : Url) : Target := ⟨u.path.toList, shown u.params, shown u.query, shown u.fragment⟩

theorem toList_text (u : Url) : u.text.toList = u.origin.toList ++ u.target.text := by
  have hparams := toList_marked ';' u.params
  have hquery := toList_marked '?' u.query
  have hfragment := toList_marked '#' u.fragment
  simp only [String.singleton_eq_ofList] at hparams hquery hfragment
  simp only [text, Target.text, target, String.toList_append, ← hparams, ← hquery, ← hfragment]
  simp

theorem withTarget_target (u : Url) : u.withTarget u.target = u := by
  simp [withTarget, target, getD_shown]

theorem target_lawful (h : read s = .ok u) : u.target.Lawful := by
  obtain ⟨p, hp⟩ := Parts.exists_divides (trim s.toList)
  have hnames : p.Names u := ((read_eq_ok_iff_names hp).1 h).2
  obtain ⟨hlead, hsegment, hpath, hparams, hquery⟩ := hp.target
  rw [← hnames.path] at hlead hsegment hpath
  exact ⟨hlead, hsegment, hpath,
    fun q hq => hparams q (written_of_shown hnames.params hq),
    fun q hq => hquery q (written_of_shown hnames.query hq)⟩

/-- A URL that was read is read again from its text, unless that ends with a blank. -/
theorem read_text (h : read s = .ok u)
    (hend : ∀ c, u.text.toList.getLast? = some c → isBlank c = false) : read u.text = .ok u := by
  have hu := sound_of_read h
  have htrim : trim u.text.toList = u.text.toList := by
    refine trim_of_ends (fun c hc => ?_) hend
    rw [toList_text, hu.head?_origin, Option.some.injEq] at hc
    rw [← hc]
    decide
  have hread := hu.read_target (target_lawful h) (htrim.trans (toList_text u))
  rwa [withTarget_target] at hread

/-- Every mark of a URL stands also in a part that another one opened, and the port is not the
default of the scheme. -/
theorem read_text_marks :
    let u : Url := ⟨"https", "api.test?#;", 80, "/a;b/c", "v=1;w", "x=/y?z;", "f?#/g"⟩
    (read " HTTPS://API.test?#;:080/a;b/c;v=1;w?x=/y?z;#f?#/g " = .ok u ∧
      ∀ c, u.text.toList.getLast? = some c → isBlank c = false) ∧
    u.text = "https://api.test?#;:80/a;b/c;v=1;w?x=/y?z;#f?#/g" ∧ read u.text = .ok u := by
  intro u
  have hread : read " HTTPS://API.test?#;:080/a;b/c;v=1;w?x=/y?z;#f?#/g " = .ok u := by
    decide +kernel
  have hend : ∀ c, u.text.toList.getLast? = some c → isBlank c = false := by
    have hlast : u.text.toList.getLast? = some 'g' := by decide +kernel
    intro c hc
    cases hlast.symm.trans hc
    decide
  exact ⟨⟨hread, hend⟩, by decide +kernel, read_text hread hend⟩

end Url
end RestShell
