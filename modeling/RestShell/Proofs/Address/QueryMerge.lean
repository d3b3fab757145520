import Mathlib.Algebra.GroupWithZero.Nat
import Mathlib.Data.List.DropRight
import RestShell.Address.Query
import RestShell.Proofs.Text.Pieces

/-! Merging queries into a URL, one after the other. The URL is followed as a base and the
query behind its first question mark. Beside what merging does to the query stands the
join that loses nothing; both agree just when no query has a question mark that merging
takes for one of its own. -/

namespace RestShell
namespace Chars

/-- A base with the query behind it, if there is one. -/
def withQuery (base : List Char) : Option (List Char) → List Char
  | none => base
  | some own => base ++ '?' :: own

/-- The text without the question marks it closes with. -/
def dropMarks (cs : List Char) : List Char := cs.rdropWhile (· == '?')

/-- The query of a URL after one more was merged into it. -/
def mergeInto (o : Option (List Char)) (q : List Char) : Option (List Char) :=
  if q = [] then o
  else match o with
    | none => if dropMarks (dropQuestion q) = [] then none else some (dropMarks (dropQuestion q))
    | some own => some (dropMarks (mergeQueries own (dropQuestion q)))

/-- The query of a URL with one more joined to it, of which only a leading mark is dropped. -/
def joinInto (o : Option (List Char)) (q : List Char) : Option (List Char) :=
  if dropQuestion q = [] then o
  else match o with
    | none => some (dropQuestion q)
    | some own => some (own ++ '&' :: dropQuestion q)

/-- A query that is not empty and does not close with a question mark. -/
def Closed (o : Option (List Char)) : Prop :=
  ∀ own, o = some own → own ≠ [] ∧ own.getLast? ≠ some '?'

theorem closed_none : Closed none := by
  rintro own ⟨⟩

theorem dropMarks_eq_self_iff {cs : List Char} : dropMarks cs = cs ↔ cs.getLast? ≠ some '?' := by
  rw [dropMarks, List.rdropWhile_eq_self_iff]
  cases cs using List.reverseRecOn with
  | nil => simp
  | append_singleton l c => simp

theorem dropMarks_append (a : List Char) {b : List Char} (hb : dropMarks b ≠ []) :
    dropMarks (a ++ b) = a ++ dropMarks b := by
  have hr : b.reverse.dropWhile (· == '?') ≠ [] := by simpa [dropMarks, List.rdropWhile] using hb
  simp [dropMarks, List.rdropWhile, List.dropWhile_append, hr]

theorem getLast?_dropMarks (cs : List Char) : (dropMarks cs).getLast? ≠ some '?' := by
  rw [← dropMarks_eq_self_iff]
  exact List.rdropWhile_idempotent _ cs

theorem length_dropMarks_le (cs : List Char) : (dropMarks cs).length ≤ cs.length :=
  (List.rdropWhile_prefix _ cs).length_le

theorem getLast?_of_length {cs : List Char} (h : cs.length ≤ (dropMarks cs).length) :
    cs.getLast? ≠ some '?' :=
  dropMarks_eq_self_iff.1 ((List.rdropWhile_prefix _ cs).eq_of_length_le h)

/-- The mark that opens a query is dropped along with those it is made of. -/
theorem dropMarks_withQuery {base : List Char} (hb : '?' ∉ base) (q : List Char) :
    dropMarks (base ++ '?' :: q) =
      withQuery base (if dropMarks q = [] then none else some (dropMarks q)) := by
  have hbase : dropMarks base = base := by
    rw [dropMarks_eq_self_iff]
    exact fun h => hb (List.mem_of_getLast? h)
  split
  · rename_i hq
    have hall : ∀ c ∈ q, c = '?' := by simpa [dropMarks, List.rdropWhile_eq_nil_iff] using hq
    have hd : (base ++ '?' :: q).reverse.dropWhile (· == '?') =
        base.reverse.dropWhile (· == '?') := by
      rw [show (base ++ '?' :: q).reverse = (q.reverse ++ ['?']) ++ base.reverse by simp,
        List.dropWhile_append_of_pos]
      intro c hc
      rcases List.mem_append.1 hc with hc | hc
      · simpa using hall c (List.mem_reverse.1 hc)
      · simpa using hc
    rw [withQuery, dropMarks, List.rdropWhile, hd]
    exact hbase
  · rename_i hq
    have h := dropMarks_append (base ++ ['?']) hq
    simpa [withQuery] using h

theorem dropQuestion_suffix (q : List Char) : dropQuestion q <:+ q := by
  unfold dropQuestion
  split
  · exact List.suffix_cons _ _
  · exact List.suffix_refl _

@[simp] theorem dropQuestion_nil : dropQuestion [] = [] := rfl

theorem ne_nil_of_dropQuestion {q : List Char} (h : dropQuestion q ≠ []) : q ≠ [] := by
  rintro rfl
  exact h rfl

theorem dropQuestion_eq_self_iff {q : List Char} : dropQuestion q = q ↔ q.head? ≠ some '?' := by
  unfold dropQuestion
  split
  · simp
  · rename_i h
    cases q with
    | nil => simp
    | cons c r =>
      have hc : c ≠ '?' := fun he => h r (by rw [he])
      simp [hc]

theorem length_dropQuestion_le (q : List Char) : (dropQuestion q).length ≤ q.length :=
  (dropQuestion_suffix q).length_le

theorem head?_of_length {q : List Char} (h : q.length ≤ (dropQuestion q).length) :
    q.head? ≠ some '?' :=
  dropQuestion_eq_self_iff.1 ((dropQuestion_suffix q).eq_of_length_le h)

theorem Closed.dropQuestion_ne_nil {own : List Char} (h : Closed (some own)) :
    dropQuestion own ≠ [] := by
  obtain ⟨hne, hl⟩ := h own rfl
  intro he
  by_cases hh : own.head? = some '?'
  · obtain ⟨r, rfl⟩ := List.head?_eq_some_iff.1 hh
    simp only [dropQuestion] at he
    simp [he] at hl
  · rw [dropQuestion_eq_self_iff.2 hh] at he
    exact hne he

theorem dropMarks_merge {own : List Char} (h : Closed (some own)) (d : List Char) :
    dropMarks (mergeQueries own d) = if dropQuestion d = [] then dropQuestion own
      else dropQuestion own ++ '&' :: dropMarks (dropQuestion d) := by
  have hne := h.dropQuestion_ne_nil
  by_cases hd : dropQuestion d = []
  · -- nothing is joined, and what is left of the own query closes as before
    have hl : (dropQuestion own).getLast? = own.getLast? := by
      obtain ⟨t, ht⟩ := dropQuestion_suffix own
      conv => rhs; rw [← ht]
      rw [List.getLast?_append_of_ne_nil _ hne]
    simp only [mergeQueries, hd, if_true]
    rw [dropMarks_eq_self_iff, hl]
    exact (h own rfl).2
  · simp only [mergeQueries, hd, hne, if_false]
    by_cases hm : dropMarks (dropQuestion d) = []
    · have hall : ∀ c ∈ dropQuestion d, c = '?' := by
        simpa [dropMarks, List.rdropWhile_eq_nil_iff] using hm
      have hr : ∀ c ∈ (dropQuestion d).reverse, (c == '?') = true := by simpa using hall
      rw [hm, dropMarks, List.rdropWhile, List.reverse_append, List.reverse_cons, List.append_assoc,
        List.dropWhile_append_of_pos hr]
      simp
    · simpa using dropMarks_append (dropQuestion own ++ ['&']) hm

theorem dropMarks_merge_ne_nil {own : List Char} (h : Closed (some own)) (d : List Char) :
    dropMarks (mergeQueries own d) ≠ [] := by
  rw [dropMarks_merge h]
  split
  · exact h.dropQuestion_ne_nil
  · simp

theorem Closed.mergeInto {o : Option (List Char)} (h : Closed o) (q : List Char) :
    Closed (mergeInto o q) := by
  unfold Chars.mergeInto
  split
  · exact h
  · cases o with
    | none =>
      dsimp only
      split
      · rintro own ⟨⟩
      · rename_i hne
        rintro own ⟨⟩
        exact ⟨hne, getLast?_dropMarks _⟩
    | some own =>
      rintro own' ⟨⟩
      exact ⟨dropMarks_merge_ne_nil h _, getLast?_dropMarks _⟩

theorem addQuery_withQuery {base : List Char} (hb : '?' ∉ base) {o : Option (List Char)}
    (ho : Closed o) {q : List Char} (hq : q ≠ []) :
    addQuery (withQuery base o) q = withQuery base (mergeInto o q) := by
  cases o with
  | none =>
    have hc : cut '?' base = none := cut_eq_none_iff.2 hb
    have hm := dropMarks_withQuery hb (dropQuestion q)
    simp only [addQuery, withQuery, hc, mergeInto, hq, if_false]
    exact hm
  | some own =>
    have hc : cut '?' (base ++ '?' :: own) = some (base, own) := cut_append hb own
    have hm := dropMarks_withQuery hb (mergeQueries own (dropQuestion q))
    rw [if_neg (dropMarks_merge_ne_nil ho _)] at hm
    simp only [addQuery, withQuery, hc, mergeInto, hq, if_false]
    exact hm

/-- Merging queries into a URL is merging them into its query. -/
theorem foldl_addQuery {base : List Char} (hb : '?' ∉ base) (qs : List (List Char))
    {o : Option (List Char)} (ho : Closed o) :
    qs.foldl (fun url q => if q = [] then url else addQuery url q) (withQuery base o) =
      withQuery base (qs.foldl mergeInto o) := by
  induction qs generalizing o with
  | nil => rfl
  | cons q r ih =>
    have hs : (if q = [] then withQuery base o else addQuery (withQuery base o) q) =
        withQuery base (mergeInto o q) := by
      split
      · rename_i hq
        simp [mergeInto, hq]
      · rename_i hq
        exact addQuery_withQuery hb ho hq
    rw [List.foldl_cons, List.foldl_cons, hs, ih (ho.mergeInto q)]

theorem cut_withQuery {base : List Char} (hb : '?' ∉ base) (o : Option (List Char)) :
    (cut '?' (withQuery base o)).map Prod.snd = o := by
  cases o with
  | none => simp [withQuery, cut_eq_none_iff.2 hb]
  | some own => simp [withQuery, cut_append hb]

/-- What a query takes behind a URL, its mark counted. -/
def room : Option (List Char) → Nat
  | none => 0
  | some own => own.length + 1

/-- What joining a query takes, the sign before it counted. -/
def weight (q : List Char) : Nat := if dropQuestion q = [] then 0 else (dropQuestion q).length + 1

/-- Merging takes no question mark of either query: not where the new one ends, and not
where one of two begins. -/
def Keeps (o : Option (List Char)) (q : List Char) : Prop :=
  q = [] ∨ (dropQuestion q).getLast? ≠ some '?' ∧
    ∀ own, o = some own → own.head? ≠ some '?' ∧ (dropQuestion q).head? ≠ some '?'

theorem Keeps.mergeInto_eq {o : Option (List Char)} {q : List Char} (h : Keeps o q)
    (ho : Closed o) : mergeInto o q = joinInto o q := by
  rcases h with rfl | ⟨hl, hh⟩
  · simp [mergeInto, joinInto, dropQuestion]
  · have hd := dropMarks_eq_self_iff.2 hl
    cases o with
    | none =>
      by_cases hq : q = []
      · simp [mergeInto, joinInto, hq, dropQuestion]
      · simp [mergeInto, joinInto, hq, hd]
    | some own =>
      obtain ⟨hown, hq⟩ := hh own rfl
      have hm := dropMarks_merge ho (dropQuestion q)
      rw [dropQuestion_eq_self_iff.2 hown, dropQuestion_eq_self_iff.2 hq, hd] at hm
      by_cases he : q = []
      · simp [mergeInto, joinInto, he, dropQuestion]
      · simp only [mergeInto, joinInto, he, if_false, hm]
        split <;> rfl

theorem room_joinInto (o : Option (List Char)) (q : List Char) :
    room (joinInto o q) = room o + weight q := by
  by_cases hq : dropQuestion q = []
  · simp [joinInto, weight, hq]
  · cases o with
    | none => simp [joinInto, weight, hq, room]
    | some own =>
      simp [joinInto, weight, hq, room]
      omega

theorem weight_of_ne_nil {q : List Char} (h : dropQuestion q ≠ []) :
    weight q = (dropQuestion q).length + 1 := if_neg h

theorem room_mergeInto_none (q : List Char) :
    room (mergeInto none q) =
      if dropMarks (dropQuestion q) = [] then 0 else (dropMarks (dropQuestion q)).length + 1 := by
  by_cases hq : q = []
  · simp [mergeInto, hq, room, dropQuestion, dropMarks]
  · simp only [mergeInto, hq, if_false]
    split <;> rfl

theorem room_mergeInto_some {own q : List Char} (ho : Closed (some own)) (hq : q ≠ []) :
    room (mergeInto (some own) q) =
      (dropQuestion own).length + 1 +
        if dropQuestion (dropQuestion q) = [] then 0
        else (dropMarks (dropQuestion (dropQuestion q))).length + 1 := by
  simp only [mergeInto, hq, if_false, room, dropMarks_merge ho]
  split
  · rfl
  · simp only [List.length_append, List.length_cons]
    omega

/-- Merging a query never takes more than joining it. -/
theorem room_mergeInto_le {o : Option (List Char)} (ho : Closed o) (q : List Char) :
    room (mergeInto o q) ≤ room o + weight q := by
  by_cases hd : dropQuestion q = []
  · have hw : weight q = 0 := if_pos hd
    cases o with
    | none => simp [room_mergeInto_none, hd, dropMarks]
    | some own =>
      have hown := length_dropQuestion_le own
      by_cases hq : q = []
      · simp [mergeInto, hq]
      · have hdd : dropQuestion (dropQuestion q) = [] := by simp [hd]
        rw [room_mergeInto_some ho hq, if_pos hdd, room]
        omega
  · have hm := length_dropMarks_le (dropQuestion q)
    rw [weight_of_ne_nil hd]
    cases o with
    | none =>
      rw [room_mergeInto_none]
      split <;> omega
    | some own =>
      have hq := ne_nil_of_dropQuestion hd
      have hown := length_dropQuestion_le own
      have hdd := length_dropQuestion_le (dropQuestion q)
      have hmm := length_dropMarks_le (dropQuestion (dropQuestion q))
      rw [room_mergeInto_some ho hq, room]
      split <;> omega

/-- A query that takes as much when merged as when joined lost no mark. -/
theorem keeps_of_room {o : Option (List Char)} (ho : Closed o) {q : List Char}
    (h : room o + weight q ≤ room (mergeInto o q)) : Keeps o q := by
  by_cases hd : dropQuestion q = []
  · have hw : weight q = 0 := if_pos hd
    by_cases hq : q = []
    · exact .inl hq
    · refine .inr ⟨by simp [hd], ?_⟩
      rintro own rfl
      have hdd : dropQuestion (dropQuestion q) = [] := by simp [hd]
      rw [room_mergeInto_some ho hq, if_pos hdd, room] at h
      exact ⟨head?_of_length (by omega), by simp [hd]⟩
  · rw [weight_of_ne_nil hd] at h
    cases o with
    | none =>
      rw [room_mergeInto_none, room] at h
      split at h
      · omega
      · exact .inr ⟨getLast?_of_length (by omega), by rintro own ⟨⟩⟩
    | some own =>
      have hq := ne_nil_of_dropQuestion hd
      have hown := length_dropQuestion_le own
      have hdd := length_dropQuestion_le (dropQuestion q)
      have hmm := length_dropMarks_le (dropQuestion (dropQuestion q))
      rw [room_mergeInto_some ho hq, room] at h
      split at h
      · omega
      · have hhead : (dropQuestion q).head? ≠ some '?' := head?_of_length (by omega)
        rw [dropQuestion_eq_self_iff.2 hhead] at h hmm
        refine .inr ⟨getLast?_of_length (by omega), ?_⟩
        rintro own' ⟨⟩
        exact ⟨head?_of_length (by omega), hhead⟩

/-- Every step of merging queries, one after the other, takes no mark. -/
def KeepsAll : Option (List Char) → List (List Char) → Prop
  | _, [] => True
  | o, q :: r => Keeps o q ∧ KeepsAll (joinInto o q) r

theorem room_foldl_mergeInto_le (qs : List (List Char)) {o : Option (List Char)} (ho : Closed o) :
    room (qs.foldl mergeInto o) ≤ room o + (qs.map weight).sum := by
  induction qs generalizing o with
  | nil => simp
  | cons q r ih =>
    have hstep := room_mergeInto_le ho q
    have hrest := ih (ho.mergeInto q)
    simp only [List.foldl_cons, List.map_cons, List.sum_cons]
    omega

theorem room_foldl_joinInto (qs : List (List Char)) (o : Option (List Char)) :
    room (qs.foldl joinInto o) = room o + (qs.map weight).sum := by
  induction qs generalizing o with
  | nil => simp
  | cons q r ih =>
    rw [List.foldl_cons, ih, room_joinInto, List.map_cons, List.sum_cons]
    omega

/-- A mark that is lost at one step is missing at the end: what follows never takes more
when merged than when joined. -/
theorem foldl_mergeInto_eq_iff (qs : List (List Char)) {o : Option (List Char)} (ho : Closed o) :
    qs.foldl mergeInto o = qs.foldl joinInto o ↔ KeepsAll o qs := by
  induction qs generalizing o with
  | nil => simp [KeepsAll]
  | cons q r ih =>
    rw [List.foldl_cons, List.foldl_cons, KeepsAll]
    constructor
    · intro h
      have hkeeps : Keeps o q := by
        refine keeps_of_room ho ?_
        have hrest := room_foldl_mergeInto_le r (ho.mergeInto q)
        rw [h, room_foldl_joinInto, room_joinInto] at hrest
        omega
      have hc := ho.mergeInto q
      rw [hkeeps.mergeInto_eq ho] at h hc
      exact ⟨hkeeps, (ih hc).1 h⟩
    · rintro ⟨hkeeps, hrest⟩
      have hc := ho.mergeInto q
      rw [hkeeps.mergeInto_eq ho] at hc ⊢
      exact (ih hc).2 hrest

end Chars
end RestShell
