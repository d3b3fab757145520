import RestShell.Client.Basic
import RestShell.Proofs.Address.Names
import RestShell.Proofs.Address.QueryJoin
import RestShell.Proofs.Address.UrlText

/-! The query of a URL that a client composes. It joins what the base URL, the path and the
caller bring, without loss just when merging the three keeps their question marks. -/

namespace RestShell
namespace Client

/-- The queries of a URL, in the order in which they are added to it. -/
def sources (c : Client) (path : String) (query : Option String) : List String :=
  [c.base.query, (Text.cutD '?' path).2, query.getD ""]

/-- The URL of a path before any query is added. -/
def target (c : Client) (path : String) : String :=
  c.base.scheme ++ "://" ++ c.base.hostname ++
    (if c.base.hasDefaultPort then "" else ":" ++ toString c.base.port) ++
    Path.normalize true false ("/" ++ c.base.path ++ "/" ++ (Text.cutD '?' path).1)

theorem buildUrl_eq (c : Client) (path : String) (query : Option String) :
    c.buildUrl path query = (c.sources path query).foldl
      (fun url q => if q = "" then url else Query.addTo url q) (c.target path) := rfl

theorem question_notMem_cutD (path : String) : '?' ∉ (Text.cutD '?' path).1.toList := by
  have h := Url.notMem_cut_fst '?' path.toList
  unfold Text.cutD Text.cut
  cases hc : Chars.cut '?' path.toList with
  | none =>
    rw [hc] at h
    simpa using h
  | some p =>
    rw [hc] at h
    simpa using h

variable {c : Client} {text : String}

theorem question_notMem_target (hr : Url.read text = .ok c.base)
    (hn : '?' ∉ c.base.hostname.toList) (path : String) : '?' ∉ (c.target path).toList := by
  have hs : '?' ∉ c.base.scheme.toList := by
    rcases (Url.sound_of_read hr).scheme with h | h
    · rw [h]
      decide
    · rw [h]
      decide
  have hd : '?' ∉ Nat.toDigits 10 c.base.port := fun h =>
    absurd (Chars.isDecimal_of_mem_toDigits h) (by decide)
  have hp : '?' ∉ (if c.base.hasDefaultPort then "" else ":" ++ toString c.base.port).toList := by
    split
    · simp
    · simpa using hd
  have hb : '?' ∉ c.base.path.toList := (Url.target_lawful hr).path.1
  have ho := question_notMem_cutD path
  have ht : '?' ∉ (Path.normalize true false
      ("/" ++ c.base.path ++ "/" ++ (Text.cutD '?' path).1)).toList := by
    intro h
    have h' := Chars.mem_of_mem_normalize (by simpa [Path.normalize] using h)
    simp [hb, ho] at h'
  simp only [target, String.toList_append, List.mem_append, not_or]
  exact ⟨⟨⟨⟨hs, by decide⟩, hn⟩, hp⟩, ht⟩

/-- A composed URL is its target with the queries merged in turn behind it. -/
theorem toList_buildUrl (hr : Url.read text = .ok c.base) (hn : '?' ∉ c.base.hostname.toList)
    (path : String) (query : Option String) :
    (c.buildUrl path query).toList = Chars.withQuery (c.target path).toList
      (((c.sources path query).map String.toList).foldl Chars.mergeInto none) := by
  rw [buildUrl_eq, Query.toList_foldl_addTo]
  exact Chars.foldl_addQuery (question_notMem_target hr hn path) _ Chars.closed_none

/-- What follows the first question mark of a composed URL is the queries merged in turn. -/
theorem buildUrl_query (hr : Url.read text = .ok c.base) (hn : '?' ∉ c.base.hostname.toList)
    (path : String) (query : Option String) :
    (Text.cut '?' (c.buildUrl path query)).map Prod.snd =
      (((c.sources path query).map String.toList).foldl Chars.mergeInto none).map
        String.ofList := by
  have hc := Chars.cut_withQuery (question_notMem_target hr hn path)
    (((c.sources path query).map String.toList).foldl Chars.mergeInto none)
  rw [Text.cut, toList_buildUrl hr hn, Option.map_map]
  conv => rhs; rw [← hc, Option.map_map]
  rfl

/-- A composed URL carries the queries of the base URL, of the path and of the caller, joined
in this order, just when none of them has a question mark to lose. Without any query
behind their marks it has no question mark. -/
theorem buildUrl_joined_iff (hr : Url.read text = .ok c.base)
    (hn : '?' ∉ c.base.hostname.toList) (path : String) (query : Option String) :
    (Text.cut '?' (c.buildUrl path query)).map Prod.snd =
        Query.joined [c.base.query, (Text.cutD '?' path).2, query.getD ""] ↔
      Query.Kept [c.base.query, (Text.cutD '?' path).2, query.getD ""] := by
  have hj := Query.joined_eq (c.sources path query)
  have hk := Query.kept_iff (c.sources path query)
  rw [buildUrl_query hr hn]
  change _ = Query.joined (c.sources path query) ↔ Query.Kept (c.sources path query)
  rw [hj, ← hk, ← Chars.keepsAll_none_iff, ← Chars.foldl_mergeInto_eq_iff _ Chars.closed_none]
  constructor
  · intro h
    exact Option.map_injective (fun _ _ => String.ofList_injective) h
  · intro h
    rw [h]

/-- All three bring a query, the caller one with the mark that leads it. -/
theorem buildUrl_joined_docs :
    (Text.cut '?' (buildUrl ⟨⟨"http", "api.test", 80, "/v1", "", "a=b", ""⟩, [], none, false, []⟩
      "/docs?c=d" (some "?e=f"))).map Prod.snd = some "a=b&c=d&e=f" := by
  have hr : Url.read "http://api.test/v1?a=b" =
      .ok (⟨"http", "api.test", 80, "/v1", "", "a=b", ""⟩ : Url) := by rfl
  have hk : Query.Kept ["a=b", "c=d", "?e=f"] := ⟨by decide, by decide⟩
  exact (buildUrl_joined_iff (c := ⟨_, [], none, false, []⟩) hr (by decide) "/docs?c=d"
    (some "?e=f")).2 hk

/-- The mark that ends the caller's query is taken for the one that begins an empty query. -/
theorem buildUrl_loses_mark :
    Url.read "http://api.test" = .ok ⟨"http", "api.test", 80, "/", "", "", ""⟩ ∧
    (Text.cut '?' (buildUrl ⟨⟨"http", "api.test", 80, "/", "", "", ""⟩, [], none, false, []⟩
      "/docs" (some "a=b?"))).map Prod.snd = some "a=b" ∧
    Query.joined ["", "", "a=b?"] = some "a=b?" := by
  refine ⟨by rfl, by rfl, by rfl⟩

end Client
end RestShell
