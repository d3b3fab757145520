import RestShell.Proofs.Address.QueryMerge

/-! The join of a list of queries, and the lists whose queries all keep their marks when they
are merged in turn. A closing mark is lost wherever it stands. An opening one is lost when
a query is merged before it or behind it, and a query that is a lone mark counts as one
behind it, but not as one before. -/

namespace RestShell
namespace Chars

/-- The queries of a list without their leading marks, empty ones left out. -/
def pieces (qs : List (List Char)) : List (List Char) :=
  (qs.map dropQuestion).filter fun p => !p.isEmpty

/-- No query of the list loses a mark when all are merged in turn. -/
def Kept (qs : List (List Char)) : Prop :=
  (∀ q ∈ qs, (dropQuestion q).getLast? ≠ some '?') ∧
    qs.Pairwise fun a b => ((dropQuestion a).head? = some '?' → b = []) ∧
      ((dropQuestion b).head? = some '?' → dropQuestion a = [])

theorem pieces_cons_of_nil {q : List Char} (h : dropQuestion q = []) (qs : List (List Char)) :
    pieces (q :: qs) = pieces qs := by
  simp [pieces, h]

theorem pieces_cons_of_ne_nil {q : List Char} (h : dropQuestion q ≠ []) (qs : List (List Char)) :
    pieces (q :: qs) = dropQuestion q :: pieces qs := by
  simp [pieces, h]

theorem join_append_cons (sep : Char) (a b : List Char) (ps : List (List Char)) :
    join sep ((a ++ sep :: b) :: ps) = join sep (a :: b :: ps) := by
  cases ps with
  | nil => rfl
  | cons p r => simp [join]

theorem foldl_joinInto_some (qs : List (List Char)) (own : List Char) :
    qs.foldl joinInto (some own) = some (join '&' (own :: pieces qs)) := by
  induction qs generalizing own with
  | nil => rfl
  | cons q r ih =>
    by_cases hq : dropQuestion q = []
    · have hj : joinInto (some own) q = some own := if_pos hq
      rw [List.foldl_cons, hj, ih, pieces_cons_of_nil hq]
    · have hj : joinInto (some own) q = some (own ++ '&' :: dropQuestion q) := if_neg hq
      rw [List.foldl_cons, hj, ih, pieces_cons_of_ne_nil hq, join_append_cons]

theorem foldl_joinInto_none (qs : List (List Char)) :
    qs.foldl joinInto none = if pieces qs = [] then none else some (join '&' (pieces qs)) := by
  induction qs with
  | nil => rfl
  | cons q r ih =>
    by_cases hq : dropQuestion q = []
    · have hj : joinInto none q = none := if_pos hq
      rw [List.foldl_cons, hj, ih, pieces_cons_of_nil hq]
    · have hj : joinInto none q = some (dropQuestion q) := if_neg hq
      rw [List.foldl_cons, hj, foldl_joinInto_some, pieces_cons_of_ne_nil hq]
      simp

/-- Behind a query that is there, each further one must begin and end with something else
than a mark, and the first one is safe only if nothing is merged behind it. -/
theorem keepsAll_some_iff (qs : List (List Char)) {own : List Char} (hne : own ≠ []) :
    KeepsAll (some own) qs ↔ (own.head? = some '?' → ∀ q ∈ qs, q = []) ∧
      ∀ q ∈ qs, (dropQuestion q).head? ≠ some '?' ∧ (dropQuestion q).getLast? ≠ some '?' := by
  induction qs generalizing own with
  | nil => simp [KeepsAll]
  | cons q r ih =>
    -- what is joined to the own query leaves its first character as it is
    have hrest : KeepsAll (joinInto (some own) q) r ↔ (own.head? = some '?' → ∀ q ∈ r, q = []) ∧
        ∀ q ∈ r, (dropQuestion q).head? ≠ some '?' ∧ (dropQuestion q).getLast? ≠ some '?' := by
      by_cases hq : dropQuestion q = []
      · rw [show joinInto (some own) q = some own from if_pos hq]
        exact ih hne
      · rw [show joinInto (some own) q = some (own ++ '&' :: dropQuestion q) from if_neg hq]
        have h := ih (show own ++ '&' :: dropQuestion q ≠ [] by simp)
        rwa [List.head?_append_of_ne_nil _ hne] at h
    rw [KeepsAll, hrest, Keeps]
    simp only [Option.some.injEq, forall_eq', List.forall_mem_cons]
    by_cases hq : q = []
    · simp [hq, dropQuestion]
    · simp only [hq, false_or]
      tauto

theorem keepsAll_none_iff (qs : List (List Char)) : KeepsAll none qs ↔ Kept qs := by
  induction qs with
  | nil => simp [KeepsAll, Kept]
  | cons q r ih =>
    have hhead : Keeps none q ↔ (dropQuestion q).getLast? ≠ some '?' := by
      by_cases hq : q = []
      · simp [Keeps, hq, dropQuestion]
      · simp [Keeps, hq]
    rw [KeepsAll, hhead, Kept, List.pairwise_cons, List.forall_mem_cons]
    by_cases hq : dropQuestion q = []
    · rw [show joinInto none q = none from if_pos hq, ih, Kept]
      simp [hq]
    · rw [show joinInto none q = some (dropQuestion q) from if_neg hq, keepsAll_some_iff r hq]
      constructor
      · rintro ⟨hl, hfirst, hall⟩
        refine ⟨⟨hl, fun b hb => (hall b hb).2⟩, fun b hb => ⟨fun hh => hfirst hh b hb, ?_⟩, ?_⟩
        · exact fun hh => absurd hh (hall b hb).1
        · refine List.pairwise_of_forall_mem_list fun a ha b hb => ⟨?_, ?_⟩
          · exact fun hh => absurd hh (hall a ha).1
          · exact fun hh => absurd hh (hall b hb).1
      · rintro ⟨⟨hl, hlast⟩, hpairs, -⟩
        refine ⟨hl, fun hh b hb => (hpairs b hb).1 hh, fun b hb => ⟨?_, hlast b hb⟩⟩
        exact fun hh => hq ((hpairs b hb).2 hh)

end Chars

namespace Query

/-- The join of the queries, of which each loses at most one leading mark and empty ones are
skipped, if anything is left. -/
def joined (sources : List String) : Option String :=
  let pieces := (sources.map (Text.dropOne '?')).filter (· ≠ "")
  if pieces = [] then none else some (Text.join '&' pieces)

/-- The lists of queries of which merging keeps every mark but the leading ones. -/
structure Kept (sources : List String) : Prop where
  /-- No query ends with a mark, unless that is the leading one. -/
  closing : ∀ q ∈ sources, Text.endsWith '?' (Text.dropOne '?' q) = false
  /-- A query with a second leading mark has none behind it and at most lone marks before it. -/
  opening : sources.Pairwise fun a b =>
    (Text.startsWith '?' (Text.dropOne '?' a) → b = "") ∧
      (Text.startsWith '?' (Text.dropOne '?' b) → Text.dropOne '?' a = "")

theorem toList_dropOne (q : String) :
    (Text.dropOne '?' q).toList = Chars.dropQuestion q.toList := by
  unfold Text.dropOne Chars.dropQuestion
  cases h : q.toList with
  | nil => simpa using h
  | cons c r =>
    by_cases hc : c = '?'
    · simp [hc]
    · simp only [hc, if_false, h]
      split
      · rename_i he
        exact absurd (List.cons.inj he).1 hc
      · rfl

theorem toList_addTo (url q : String) :
    (Query.addTo url q).toList = Chars.addQuery url.toList q.toList := by
  simp [Query.addTo]

/-- Adding queries to a URL, one after the other, read as characters. -/
theorem toList_foldl_addTo (sources : List String) (url : String) :
    (sources.foldl (fun url q => if q = "" then url else Query.addTo url q) url).toList =
      (sources.map String.toList).foldl
        (fun url q => if q = [] then url else Chars.addQuery url q) url.toList := by
  induction sources generalizing url with
  | nil => rfl
  | cons q r ih =>
    rw [List.foldl_cons, List.map_cons, List.foldl_cons, ih]
    by_cases hq : q = ""
    · simp [hq]
    · have hl : q.toList ≠ [] := fun h => hq (String.toList_eq_nil_iff.1 h)
      rw [if_neg hq, if_neg hl, toList_addTo]

theorem pieces_eq (sources : List String) :
    Chars.pieces (sources.map String.toList) =
      ((sources.map (Text.dropOne '?')).filter (· ≠ "")).map String.toList := by
  induction sources with
  | nil => rfl
  | cons q r ih =>
    have hq : Text.dropOne '?' q = "" ↔ Chars.dropQuestion q.toList = [] := by
      rw [← toList_dropOne, String.toList_eq_nil_iff]
    by_cases he : Text.dropOne '?' q = ""
    · rw [List.map_cons, Chars.pieces_cons_of_nil (hq.1 he), ih]
      simp [he]
    · rw [List.map_cons, Chars.pieces_cons_of_ne_nil (fun h => he (hq.2 h)), ih]
      simp [he, toList_dropOne]

theorem joined_eq (sources : List String) :
    joined sources = ((sources.map String.toList).foldl Chars.joinInto none).map String.ofList := by
  rw [Chars.foldl_joinInto_none, pieces_eq, joined]
  split
  · rename_i h
    rw [h]
    rfl
  · rename_i h
    rw [if_neg (fun he => h (List.map_eq_nil_iff.1 he))]
    rfl

theorem kept_iff (sources : List String) :
    Chars.Kept (sources.map String.toList) ↔ Kept sources := by
  have hhead : ∀ q, (Chars.dropQuestion q.toList).head? = some '?' ↔
      Text.startsWith '?' (Text.dropOne '?' q) = true := by
    intro q
    rw [← toList_dropOne, Text.startsWith, beq_iff_eq]
  have hlast : ∀ q, (Chars.dropQuestion q.toList).getLast? ≠ some '?' ↔
      Text.endsWith '?' (Text.dropOne '?' q) = false := by
    intro q
    rw [← toList_dropOne, Text.endsWith, beq_eq_false_iff_ne]
  have hnil : ∀ q, Chars.dropQuestion q.toList = [] ↔ Text.dropOne '?' q = "" := by
    intro q
    rw [← toList_dropOne, String.toList_eq_nil_iff]
  simp only [Chars.Kept, List.forall_mem_map, List.pairwise_map, hhead, hlast, hnil,
    String.toList_eq_nil_iff]
  exact ⟨fun h => ⟨h.1, h.2⟩, fun h => ⟨h.closing, h.opening⟩⟩

end Query
end RestShell
