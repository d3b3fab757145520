import RestShell.Proofs.Address.Normal
import RestShell.Proofs.Client.UrlQuery

/-! Where a composed URL leads. Whatever the path and the queries are, the URL that a client
composes is one, on the server of the base URL, and its path is the one below the path of the base
URL: no mark of the path or of a query is taken for one that comes before it. -/

namespace RestShell
namespace Chars

/-- A normal path does not end with a blank. -/
theorem trimEnd_normalize (cs : List Char) :
    trimEnd (normalize true false cs) = normalize true false cs := by
  rw [← trim_normalize, trim, trimEnd_trimEnd]

theorem exists_withTrail (cs : List Char) : ∃ a, withTrail cs = a ++ ['/'] :=
  List.getLast?_eq_some_iff.1 (getLast?_withTrail cs)

/-- The last segment of a normal path stands in what the last part of it was made of. -/
theorem exists_segment_normalize (x y : List Char) :
    ∃ a b, normalize true false (x ++ '/' :: y) = a ++ '/' :: b ∧ '/' ∉ b ∧ ∀ c ∈ b, c ∈ y := by
  have hslash : '/' ∈ '/' :: trimEnd y := List.mem_cons_self
  obtain ⟨front, b, hy, hb⟩ := exists_segment hslash
  have hmem : ∀ c ∈ b, c ∈ y := by
    intro c hc
    have hc' : c ∈ '/' :: trimEnd y := by simp [hy, hc]
    rcases List.mem_cons.1 hc' with rfl | hc'
    · exact absurd hc hb
    · exact trimEnd_subset y hc'
  have htrim : trim (x ++ '/' :: y) = (trimStart x ++ front ++ ['/']) ++ b := by
    rw [trim, trimStart_append isBlank_slash, trimEnd_append isBlank_slash, hy]
    simp
  have hhead : b.head? ≠ some '/' := fun h => hb (List.mem_of_mem_head? h)
  obtain ⟨a, ha⟩ := exists_withTrail (squeeze (trimStart x ++ front))
  have hsqueeze : squeeze (trim (x ++ '/' :: y)) = a ++ '/' :: b := by
    rw [htrim, squeeze_append fun _ => hhead, squeeze_concat, ha, squeeze_of_notMem hb]
    simp
  have hnormal : normalize true false (x ++ '/' :: y) = withLead (a ++ '/' :: b) := by
    rw [← hsqueeze]
    rfl
  rw [hnormal, withLead]
  split
  · exact ⟨a, b, rfl, hb, hmem⟩
  · exact ⟨'/' :: a, b, rfl, hb, hmem⟩

end Chars

namespace Url
open Chars

variable {u : Url}

/-- Behind the beginning of a URL a text is trimmed at its end only. -/
theorem Sound.trim_origin (hu : u.Sound) (r : List Char) :
    trim (u.origin.toList ++ '/' :: r) = u.origin.toList ++ '/' :: trimEnd r := by
  have hstart : trimStart (u.origin.toList ++ '/' :: r) = u.origin.toList ++ '/' :: r := by
    obtain ⟨t, ht⟩ := List.head?_eq_some_iff.1 (hu.head?_origin ('/' :: r))
    rw [ht, trimStart, List.dropWhile_cons_of_neg (by decide)]
  rw [trim, hstart, trimEnd_append isBlank_slash]

/-- Behind the origin of a URL stand a path and queries: the path is read as it stands, whatever the
queries are. -/
theorem Sound.read_path (hu : u.Sound) {path : List Char} (hlead : path.head? = some '/')
    (hsegment : ∃ a b, path = a ++ '/' :: b ∧ '/' ∉ b ∧ ';' ∉ b)
    (hmarks : '?' ∉ path ∧ '#' ∉ path) (htrim : trimEnd path = path) {text : String}
    {o : Option (List Char)} (htext : text.toList = withQuery (u.origin.toList ++ path) o) :
    ∃ g : Target, read text = .ok (u.withTarget g) ∧ g.path = path := by
  obtain ⟨r, rfl⟩ := List.head?_eq_some_iff.1 hlead
  have hr : trimEnd r = r := by
    have h := trimEnd_append (a := []) (b := r) isBlank_slash
    rw [List.nil_append, htrim] at h
    exact (List.cons.inj h).2.symm
  cases o with
  | none =>
    have hg : Target.Lawful ⟨'/' :: r, none, none, none⟩ :=
      ⟨hlead, hsegment, hmarks, by simp, by simp⟩
    refine ⟨_, hu.read_target hg ?_, rfl⟩
    rw [htext, withQuery, hu.trim_origin, hr]
    simp [Target.text]
  | some own =>
    -- a fragment begins at the first `#` of the queries
    obtain ⟨query, fragment, hown, hhash⟩ := exists_opened '#' (trimEnd own)
    have hg : Target.Lawful ⟨'/' :: r, none, some query, fragment⟩ := by
      refine ⟨hlead, hsegment, hmarks, by simp, ?_⟩
      simpa using hhash
    refine ⟨_, hu.read_target hg ?_, rfl⟩
    have hwhole : text.toList = u.origin.toList ++ '/' :: (r ++ '?' :: own) := by
      rw [htext]
      simp [withQuery]
    rw [hwhole, hu.trim_origin, trimEnd_append (by decide), hown]
    simp [Target.text]

end Url

namespace Client
open Chars

variable {c : Client} {text : String}

/-- A composed URL is one on the server of the base URL, and its path is the given one below the
path of the base URL. -/
theorem buildUrl_place (hr : Url.read text = .ok c.base) (hn : '?' ∉ c.base.hostname.toList)
    {path : String} (hpath : '#' ∉ (Text.cutD '?' path).1.toList ∧
      ';' ∉ (Text.cutD '?' path).1.toList) (query : Option String) :
    ∃ u, Url.read (c.buildUrl path query) = .ok u ∧ u.scheme = c.base.scheme ∧
      u.hostname = c.base.hostname ∧ u.port = c.base.port ∧
      u.path = Path.normalize true false ("/" ++ c.base.path ++ "/" ++ (Text.cutD '?' path).1) := by
  have hbase := (Url.target_lawful hr).path
  have hquestion := question_notMem_cutD path
  have hraw : ("/" ++ c.base.path ++ "/" ++ (Text.cutD '?' path).1).toList =
      ('/' :: c.base.path.toList) ++ '/' :: (Text.cutD '?' path).1.toList := by
    simp
  have hsegment : ∃ a b, normalize true false
      ("/" ++ c.base.path ++ "/" ++ (Text.cutD '?' path).1).toList = a ++ '/' :: b ∧
        '/' ∉ b ∧ ';' ∉ b := by
    obtain ⟨a, b, hnormal, hb, hmem⟩ :=
      exists_segment_normalize ('/' :: c.base.path.toList) (Text.cutD '?' path).1.toList
    rw [hraw]
    exact ⟨a, b, hnormal, hb, fun h => hpath.2 (hmem ';' h)⟩
  have hmarks (m : Char) (hslash : m ≠ '/') (hown : m ∉ c.base.path.toList)
      (hgiven : m ∉ (Text.cutD '?' path).1.toList) : m ∉ normalize true false
      ("/" ++ c.base.path ++ "/" ++ (Text.cutD '?' path).1).toList := by
    intro h
    have h' := mem_of_mem_normalize h
    rw [hraw] at h'
    simp [hslash, hown, hgiven] at h'
  have htext : (c.buildUrl path query).toList = withQuery (c.base.origin.toList ++
      normalize true false ("/" ++ c.base.path ++ "/" ++ (Text.cutD '?' path).1).toList)
      (((c.sources path query).map String.toList).foldl mergeInto none) := by
    rw [toList_buildUrl hr hn]
    simp [target, Url.origin, Path.normalize]
  obtain ⟨g, hread, hg⟩ := (Url.sound_of_read hr).read_path (head?_normalize false _) hsegment
    ⟨hmarks '?' (by decide) hbase.1 hquestion, hmarks '#' (by decide) hbase.2 hpath.1⟩
    (trimEnd_normalize _) htext
  refine ⟨_, hread, rfl, rfl, rfl, ?_⟩
  simp only [Url.withTarget, hg]
  rfl

/-- Marks in the host, in the base path and in every query, and slashes and blanks in the path. -/
theorem buildUrl_place_marks :
    let base : Url := ⟨"http", "api#;.test", 8080, "/a;b/c", "p", "x=1", "f?g"⟩
    let c : Client := ⟨base, [], none, false, []⟩
    let path := " //items: //d ?q=#/?;&"
    (Url.read "http://API#;.test:8080/a;b/c;p?x=1#f?g" = .ok c.base ∧
      '?' ∉ c.base.hostname.toList ∧
      '#' ∉ (Text.cutD '?' path).1.toList ∧ ';' ∉ (Text.cutD '?' path).1.toList) ∧
    ∃ u, Url.read (c.buildUrl path (some "??e=f#g ")) = .ok u ∧ u.scheme = "http" ∧
      u.hostname = "api#;.test" ∧ u.port = 8080 ∧ u.path = "/a;b/c/ /items: /d" := by
  intro base c path
  have hread : Url.read "http://API#;.test:8080/a;b/c;p?x=1#f?g" = .ok c.base := by
    decide +kernel
  have hhost : '?' ∉ c.base.hostname.toList := by decide
  have hpath : '#' ∉ (Text.cutD '?' path).1.toList ∧ ';' ∉ (Text.cutD '?' path).1.toList := by
    decide +kernel
  have hnormal : Path.normalize true false
      ("/" ++ c.base.path ++ "/" ++ (Text.cutD '?' path).1) = "/a;b/c/ /items: /d" := by
    decide +kernel
  refine ⟨⟨hread, hhost, hpath⟩, ?_⟩
  rw [← hnormal]
  exact buildUrl_place hread hhost hpath (some "??e=f#g ")

end Client
end RestShell
