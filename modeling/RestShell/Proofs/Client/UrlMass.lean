import RestShell.Proofs.Address.PathQuery
import RestShell.Proofs.Client.UrlQuery

/-! The mass of a URL that a client composes. Merging queries drops and adds marks only, so the
URL has the mass of its parts, and one for a path of less mass is another URL. -/

namespace RestShell

namespace Chars

theorem mass_dropQuestion (q : List Char) : mass (dropQuestion q) = mass q := by
  unfold dropQuestion
  split <;> simp

theorem mass_dropMarks (cs : List Char) : mass (dropMarks cs) = mass cs := by
  have hdrop : ∀ xs : List Char, mass (xs.dropWhile (· == '?')) = mass xs := by
    intro xs
    induction xs with
    | nil => rfl
    | cons c r ih =>
      by_cases hc : c = '?'
      · simpa [hc] using ih
      · simp [hc]
  rw [dropMarks, List.rdropWhile, mass, List.countP_reverse, ← mass, hdrop, mass,
    List.countP_reverse, mass]

theorem mass_mergeQueries (a b : List Char) : mass (mergeQueries a b) = mass a + mass b := by
  have ha := mass_dropQuestion a
  have hb := mass_dropQuestion b
  unfold mergeQueries
  dsimp only
  split
  · rename_i h
    rw [h, mass_nil] at hb
    omega
  · split
    · rename_i h
      rw [h, mass_nil] at ha
      omega
    · have hmark : mass ('&' :: dropQuestion b) = mass (dropQuestion b) := by simp [mass]
      rw [mass_append, hmark, ha, hb]

/-- A query adds its mass to a URL. -/
theorem mass_addQuery (url q : List Char) : mass (addQuery url q) = mass url + mass q := by
  have hq := mass_dropQuestion q
  change mass (dropMarks _) = _
  rw [mass_dropMarks]
  cases hc : cut '?' url with
  | none => simp only [mass_append, mass_question, hq]
  | some parts =>
    obtain ⟨base, own⟩ := parts
    simp only [(cut_eq_some hc).1, mass_append, mass_question, mass_mergeQueries, hq]
    omega

theorem mass_foldl_addQuery (qs : List (List Char)) (url : List Char) :
    mass (qs.foldl (fun url q => if q = [] then url else addQuery url q) url) =
      mass url + (qs.map mass).sum := by
  induction qs generalizing url with
  | nil => rfl
  | cons q r ih =>
    rw [List.foldl_cons, ih, List.map_cons, List.sum_cons]
    split
    · rename_i hq
      rw [hq, mass_nil]
      omega
    · rw [mass_addQuery]
      omega

end Chars

namespace Client
open Chars

theorem mass_buildUrl (c : Client) (path : String) (query : Option String) :
    mass (c.buildUrl path query).toList = mass (c.target path).toList + mass c.base.query.toList +
      mass (Text.cutD '?' path).2.toList + mass (query.getD "").toList := by
  rw [buildUrl_eq, Query.toList_foldl_addTo, mass_foldl_addQuery, sources]
  simp
  omega

theorem normalize_root (base x : List Char) :
    Chars.normalize true false ('/' :: base ++ '/' :: '/' :: x) =
      squeeze ('/' :: base ++ ['/'] ++ trimEnd x) := by
  have htrim : trim ('/' :: base ++ '/' :: '/' :: x) = '/' :: base ++ '/' :: '/' :: trimEnd x := by
    have hstart : trimStart ('/' :: base ++ '/' :: '/' :: x) = '/' :: base ++ '/' :: '/' :: x := rfl
    rw [trim, hstart, List.append_cons, trimEnd_append isBlank_slash]
    simp
  have hlead : (squeeze ('/' :: base ++ ['/'] ++ trimEnd x)).head? = some '/' := by
    rw [head?_squeeze]
    rfl
  rw [Chars.normalize, htrim, squeeze_slash_slash, List.append_cons, withLead, if_pos hlead]
  rfl

/-- Under the path of a base URL, a path from the root keeps at most its mass. -/
theorem mass_normalize_root_le (base x : List Char) :
    mass (Chars.normalize true false ('/' :: base ++ '/' :: '/' :: x)) ≤
      mass (squeeze ('/' :: base ++ ['/'])) + mass x := by
  rw [normalize_root]
  have hsqueeze := mass_le_of_sublist (squeeze_append_sublist ('/' :: base ++ ['/']) (trimEnd x))
  have htrim := mass_le_of_sublist (prefix_trimEnd x).sublist
  rw [mass_append] at hsqueeze
  omega

/-- It keeps all of it where nothing can be squeezed or trimmed. -/
theorem mass_normalize_root (base : List Char) {x : List Char} (hs : Spaced ('/' :: x))
    (hb : ∀ c ∈ x, isBlank c = false) :
    mass (Chars.normalize true false ('/' :: base ++ '/' :: '/' :: x)) =
      mass (squeeze ('/' :: base ++ ['/'])) + mass x := by
  obtain ⟨hhead, hspaced⟩ := List.isChain_cons.1 hs
  have hx : x.head? ≠ some '/' := fun h => hhead '/' h ⟨rfl, rfl⟩
  have hspaced : Spaced x := hspaced
  rw [normalize_root, trimEnd_eq_self hb, squeeze_append fun _ => hx, mass_append,
    hspaced.squeeze_eq]

/-- A path without a question mark is whole, any other one is cut at the first. -/
theorem cutD_cases (path : String) :
    Text.cutD '?' path = (path, "") ∨
      path.toList = (Text.cutD '?' path).1.toList ++ '?' :: (Text.cutD '?' path).2.toList := by
  unfold Text.cutD Text.cut
  cases hc : Chars.cut '?' path.toList with
  | none => exact .inl rfl
  | some parts =>
    obtain ⟨a, b⟩ := parts
    exact .inr (by simpa using (cut_eq_some hc).1)

theorem mass_cutD (path : String) :
    mass (Text.cutD '?' path).1.toList + mass (Text.cutD '?' path).2.toList = mass path.toList := by
  rcases cutD_cases path with h | h
  · rw [h]
    rfl
  · conv => rhs; rw [h]
    rw [mass_append, mass_question]

theorem head?_cutD {path : String} (hp : path.toList.head? = some '/') :
    ∃ x, (Text.cutD '?' path).1.toList = '/' :: x := by
  rcases cutD_cases path with h | h
  · rw [h]
    exact List.head?_eq_some_iff.1 hp
  · rw [h] at hp
    cases hx : (Text.cutD '?' path).1.toList with
    | nil => simp [hx] at hp
    | cons d x =>
      rw [hx] at hp
      cases hp
      exact ⟨x, rfl⟩

/-- Before a question mark that is put behind a path only a part of the path is left. -/
theorem prefix_cutD (r q : String) : (Text.cutD '?' (r ++ "?" ++ q)).1.toList <+: r.toList := by
  have hmark := question_notMem_cutD (r ++ "?" ++ q)
  rcases cutD_cases (r ++ "?" ++ q) with h | h
  · rw [h] at hmark
    simp at hmark
  · generalize (Text.cutD '?' (r ++ "?" ++ q)).1.toList = u at h hmark
    have hu : u <+: r.toList ++ '?' :: q.toList := ⟨_, by rw [← h]; simp⟩
    rcases List.prefix_or_prefix_of_prefix hu (List.prefix_append _ _) with hp | ⟨t, ht⟩
    · exact hp
    · cases t with
      | nil => exact ⟨[], by simpa using ht.symm⟩
      | cons d t =>
        rw [← ht] at h hmark
        have hd : '?' = d := by
          have hc : '?' :: q.toList =
              d :: t ++ '?' :: (Text.cutD '?' (r ++ "?" ++ q)).2.toList := by
            simpa using h
          exact (List.cons.inj hc).1
        subst hd
        simp at hmark

/-- The mass of what a client puts around a path. -/
def around (c : Client) (query : Option String) : Nat :=
  mass (c.base.scheme ++ "://" ++ c.base.hostname ++
      (if c.base.hasDefaultPort then "" else ":" ++ toString c.base.port)).toList +
    mass (squeeze ('/' :: c.base.path.toList ++ ['/'])) + mass c.base.query.toList +
    mass (query.getD "").toList

theorem mass_target (c : Client) {path : String} {x : List Char}
    (hp : (Text.cutD '?' path).1.toList = '/' :: x) :
    mass (c.target path).toList =
      mass (c.base.scheme ++ "://" ++ c.base.hostname ++
        (if c.base.hasDefaultPort then "" else ":" ++ toString c.base.port)).toList +
      mass (Chars.normalize true false ('/' :: c.base.path.toList ++ '/' :: '/' :: x)) := by
  have hpath : ("/" ++ c.base.path ++ "/" ++ (Text.cutD '?' path).1).toList =
      '/' :: c.base.path.toList ++ '/' :: '/' :: x := by
    simp [hp]
  rw [target, Path.normalize, hpath, String.toList_append, mass_append, String.toList_ofList]

theorem mass_buildUrl_le (c : Client) {path : String} (hp : path.toList.head? = some '/')
    (query : Option String) :
    mass (c.buildUrl path query).toList + 1 ≤ c.around query + mass path.toList := by
  obtain ⟨x, hx⟩ := head?_cutD hp
  have hpath := mass_cutD path
  have hle := mass_normalize_root_le c.base.path.toList x
  rw [hx, mass_slash] at hpath
  rw [mass_buildUrl, mass_target c hx, around]
  omega

theorem mass_buildUrl_eq (c : Client) {path : String} {x : List Char}
    (hx : (Text.cutD '?' path).1.toList = '/' :: x) (hs : Spaced ('/' :: x))
    (hb : ∀ c ∈ x, isBlank c = false) (query : Option String) :
    mass (c.buildUrl path query).toList + 1 = c.around query + mass path.toList := by
  have hpath := mass_cutD path
  have heq := mass_normalize_root c.base.path.toList hs hb
  rw [hx, mass_slash] at hpath
  rw [mass_buildUrl, mass_target c hx, around]
  omega

/-- A path of less mass than a clean one with a query makes another URL. -/
theorem buildUrl_ne_of_mass (c : Client) {there r q : String} (hr : r.toList.head? = some '/')
    (hs : Spaced r.toList) (hb : ∀ c ∈ r.toList, isBlank c = false)
    (ht : there.toList.head? = some '/') (h : mass there.toList < mass r.toList + mass q.toList)
    (query : Option String) : c.buildUrl there query ≠ c.buildUrl (r ++ "?" ++ q) query := by
  intro he
  have hhead : (r ++ "?" ++ q).toList.head? = some '/' := by
    simp [List.head?_append, hr]
  obtain ⟨x, hx⟩ := head?_cutD hhead
  have hpre := prefix_cutD r q
  rw [hx] at hpre
  have hspaced : Spaced ('/' :: x) := hs.infix hpre.isInfix
  have hle := mass_buildUrl_le c ht query
  have heq := mass_buildUrl_eq c hx hspaced
    (fun d hd => hb d (hpre.subset (List.mem_cons_of_mem _ hd))) query
  have hmass : mass (r ++ "?" ++ q).toList = mass r.toList + mass q.toList := by simp
  rw [he] at hle
  omega

end Client
end RestShell
