import RestShell.Proofs.Address.Mass
import RestShell.Proofs.Address.Normal

/-! A query behind a path that is resolved along with it. It comes out as it was, or the text
that comes out has less mass than the path and the query have. -/

namespace RestShell
namespace Chars

section Closing

/-- A text closes with a separator just when its last piece is empty. -/
theorem getLast?_eq_sep_iff {sep : Char} {cs a : List Char} {init : List (List Char)}
    (hs : split sep cs = init ++ [a]) (hne : cs ≠ []) : cs.getLast? = some sep ↔ a = [] := by
  have hmem : a ∈ split sep cs := hs ▸ List.mem_append_right init (List.mem_singleton_self a)
  have ha : sep ∉ a := notMem_of_mem_split hmem
  have hcs : cs = join sep (init ++ [a]) := by rw [← hs, join_split]
  by_cases hi : init = []
  · have hone : cs = a := by simpa [hi, join] using hcs
    rw [hone] at hne ⊢
    exact ⟨fun h => absurd (List.mem_of_getLast? h) ha, fun h => absurd h hne⟩
  · rw [hcs, join_concat sep hi]
    by_cases hempty : a = []
    · simp [hempty]
    · have hlast : (join sep init ++ sep :: a).getLast? = a.getLast? := by
        rw [List.getLast?_append_of_ne_nil _ (by simp), List.getLast?_cons_of_ne_nil hempty]
      rw [hlast]
      exact ⟨fun h => absurd (List.mem_of_getLast? h) ha, fun h => absurd h hempty⟩

end Closing

section Marks

/-- A query that resolving leaves as it is behind a path: no two slashes stand together, no
segment behind a slash is a dot or two, and no blank stands at the end or before a slash
there. -/
structure Verbatim (q : List Char) : Prop where
  spaced : Spaced q
  dotless : ∀ n ∈ (split '/' q).tail, ¬ IsDots n
  blank : trimEnd q = q
  closing : ∀ r, q = r ++ ['/'] → trimEnd r = r

variable {ns : List (List Char)} {a : List Char}

/-- The path that names and a last segment, which may be empty, lead to. -/
def base (ns : List (List Char)) (a : List Char) : List Char :=
  withLead (squeeze (join '/' (ns ++ [a])))

theorem normalize_names (hblank : ∀ c ∈ join '/' (ns ++ [a]), isBlank c = false) (trail : Bool)
    (ht : trail = true ↔ a = []) :
    normalize true trail (join '/' (if a = [] then ns else ns ++ [a])) = base ns a := by
  by_cases ha : a = []
  · rw [if_pos ha, ht.2 ha]
    by_cases hns : ns = []
    · rw [hns, ha]
      rfl
    · rw [ha, join_concat '/' hns] at hblank
      have htrim : trim (join '/' ns) = join '/' ns :=
        trim_eq_self fun c hc => hblank c (by simp [hc])
      rw [base, ha, join_concat '/' hns, squeeze_concat, withLead_withTrail, normalize, htrim]
      rfl
  · have hfalse : trail = false := by simpa [ha] using ht
    rw [if_neg ha, hfalse, normalize, trim_eq_self hblank]
    rfl

theorem squeeze_marked (x y : List Char) :
    squeeze (x ++ '?' :: y) = squeeze x ++ '?' :: squeeze y := by
  rw [squeeze_append fun _ => by simp]
  simp [squeeze]

/-- A path and a text behind a mark as normalising leaves them, closed with a slash or not. -/
def marked (trail : Bool) (path y : List Char) : List Char :=
  if trail = true then withTrail (path ++ '?' :: squeeze (trimEnd y))
  else path ++ '?' :: squeeze (trimEnd y)

/-- A text behind a mark that is part of the last segment. -/
theorem normalize_marked (hblank : ∀ c ∈ join '/' (ns ++ [a]), isBlank c = false) (trail : Bool)
    (b : List Char) (rest : List (List Char)) :
    normalize true trail (join '/' (ns ++ (a ++ '?' :: b) :: rest)) =
      marked trail (base ns a) (join '/' (b :: rest)) := by
  have hlead : ∀ x y : List Char, withLead (x ++ '?' :: y) = withLead x ++ '?' :: y := by
    intro x y
    cases x with
    | nil => rfl
    | cons c r => by_cases hc : c = '/' <;> simp [withLead, hc]
  rw [join_splice, normalize, trim_splice hblank (by decide), squeeze_marked]
  simp only [if_true, hlead]
  rfl

/-- A slash at the end is all that a text behind a mark can gain. -/
theorem mass_marked_le (trail : Bool) (path y : List Char) :
    mass (marked trail path y) ≤ mass path + mass (trimEnd y) + if trail = true then 1 else 0 := by
  have hle : mass (squeeze (trimEnd y)) ≤ mass (trimEnd y) :=
    mass_le_of_sublist (squeeze_sublist _)
  have hclosed := mass_withTrail_le (path ++ '?' :: squeeze (trimEnd y))
  rw [mass_append, mass_question] at hclosed
  unfold marked
  split
  · omega
  · rw [mass_append, mass_question]
    omega

/-- Names are joined without two slashes together, and without one before them. -/
theorem squeeze_join_names (hs : ∀ n ∈ ns, n ≠ [] ∧ '/' ∉ n) (ha : '/' ∉ a) :
    squeeze (join '/' (ns ++ [a])) = join '/' (ns ++ [a]) ∧
      (join '/' (ns ++ [a])).head? ≠ some '/' := by
  induction ns with
  | nil => exact ⟨squeeze_of_notMem ha, fun h => ha (List.mem_of_head? h)⟩
  | cons n r ih =>
    obtain ⟨⟨hne, hn⟩, hr⟩ := List.forall_mem_cons.1 hs
    obtain ⟨hsqueeze, hhead⟩ := ih hr
    rw [List.cons_append, join_cons '/' n (by simp)]
    refine ⟨?_, ?_⟩
    · rw [squeeze_append fun h => absurd (List.mem_of_getLast? h) hn, squeeze_of_notMem hn, squeeze,
        if_neg fun h => hhead h.2, hsqueeze]
    · rw [List.head?_append_of_ne_nil _ hne]
      exact fun h => hn (List.mem_of_head? h)

/-- A path weighs what its names and the slashes before them do. -/
theorem mass_base (hs : ∀ n ∈ ns, n ≠ [] ∧ '/' ∉ n) (ha : '/' ∉ a) :
    mass (base ns a) = load ns + mass a + 1 := by
  obtain ⟨hsqueeze, hhead⟩ := squeeze_join_names hs ha
  have hmass : mass (join '/' (ns ++ [a])) = load ns + mass a := by
    cases ns with
    | nil => simp [join]
    | cons n r =>
      rw [List.cons_append, mass_join]
      simp
      omega
  rw [base, hsqueeze, withLead, if_neg hhead, mass_slash, hmass]

variable {opened out rest : List (List Char)} {b q : List Char} {trail : Bool}

/-- Along a walk without dots the text behind the mark is what its names make of it, and a slash
if it closes with one. -/
theorem normalize_walked (hblank : ∀ c ∈ join '/' (opened.reverse ++ [a]), isBlank c = false)
    (hw : walk ((a ++ '?' :: b) :: opened) rest = some out) (hd : ∀ n ∈ rest, ¬ IsDots n) :
    normalize true trail (join '/' out.reverse) =
      marked trail (base opened.reverse a) (join '/' (b :: rest.filter fun n => !n.isEmpty)) := by
  rw [walk_of_not_dots hd] at hw
  cases hw
  have hrev : ((rest.filter fun n => !n.isEmpty).reverse ++ (a ++ '?' :: b) :: opened).reverse =
      opened.reverse ++ (a ++ '?' :: b) :: rest.filter fun n => !n.isEmpty := by simp
  rw [hrev]
  exact normalize_marked hblank trail b _

/-- A text behind a mark is closed as it was. -/
theorem withTrail_marked (x : List Char) {y : List Char} (hy : y.getLast? ≠ some '/') :
    withTrail (x ++ '?' :: y) = x ++ '?' :: (y ++ ['/']) := by
  have hlast : (x ++ '?' :: y).getLast? ≠ some '/' := by
    rw [List.getLast?_append_of_ne_nil _ (by simp)]
    by_cases hne : y = []
    · simp [hne]
    · rwa [List.getLast?_cons_of_ne_nil hne]
  rw [withTrail, if_neg hlast]
  simp

/-- A walk that passes a dot segment loses more than a slash at the end can give back. -/
theorem normalize_dots_lt (hs : ∀ n ∈ opened, n ≠ [] ∧ '/' ∉ n) (ha : '/' ∉ a)
    (hw : walk ((a ++ '?' :: b) :: opened) rest = some out) (hd : ∃ n ∈ rest, IsDots n)
    (ht : trail = true → rest.getLast? = some []) :
    mass (normalize true trail (join '/' out.reverse)) <
      mass (base opened.reverse a) + mass (join '/' (b :: rest)) := by
  obtain ⟨n, hn, hd⟩ := hd
  have hbase : mass (base opened.reverse a) = load opened + mass a + 1 := by
    rw [mass_base (by simpa using hs) ha, load_reverse]
  have hload := load_walk_le hw
  have hthere := mass_normalize_le trail out.reverse
  rw [load_cons, mass_append, mass_question] at hload
  rw [load_reverse] at hthere
  rw [hbase, mass_join]
  by_cases htrue : trail = true
  · have hcost := three_le_cost hn hd (ht htrue)
    rw [if_pos htrue] at hthere
    omega
  · have hcost := two_le_cost hn hd
    rw [if_neg htrue] at hthere
    omega

/-- A squeezed text is what its names give, with a slash behind them if it closes with one. -/
theorem closing_cases {t y : List Char} (ht : Spaced t) (hs : split '/' t = b :: rest)
    (hy : join '/' (b :: rest.filter fun n => !n.isEmpty) = y)
    (htrail : trail = true ↔ t.getLast? = some '/') :
    y.getLast? ≠ some '/' ∧
      ((t = y ∧ trail = false) ∨ (t = y ++ ['/'] ∧ trail = true ∧ rest.getLast? = some [])) := by
  have hsegments : ∀ n ∈ b :: rest, '/' ∉ n := fun n hn => notMem_of_mem_split (hs ▸ hn)
  have hjoin : join '/' (b :: rest) = t := by rw [← hs, join_split]
  obtain ⟨hlast, hcases⟩ := Spaced.join_filter hsegments (hjoin ▸ ht)
  rw [hjoin, hy] at hcases
  rw [hy] at hlast
  refine ⟨hlast, ?_⟩
  rcases hcases with ⟨he, -⟩ | ⟨he, hclose⟩
  · exact .inl ⟨he, by simpa [he, hlast] using htrail⟩
  · exact .inr ⟨he, htrail.2 (by rw [he]; simp), hclose⟩

/-- Of a query that is neither squeezed nor trimmed only a blank before a slash at its end can be
lost. -/
theorem marked_of_kept {y : List Char} (path : List Char) (hs : Spaced q) (hb : trimEnd q = q)
    (hd : ∀ n ∈ (split '/' q).tail, ¬ IsDots n) (hlast : y.getLast? ≠ some '/')
    (hcases : (q = y ∧ trail = false) ∨ (q = y ++ ['/'] ∧ trail = true)) :
    (Verbatim q → marked trail path y = path ++ '?' :: q) ∧
      (¬ Verbatim q → mass (marked trail path y) < mass path + mass q) := by
  rcases hcases with ⟨rfl, rfl⟩ | ⟨rfl, rfl⟩
  · have hself : squeeze (trimEnd q) = q := by rw [hb, hs.squeeze_eq]
    refine ⟨fun _ => by rw [marked, hself]; rfl, fun hv => absurd ?_ hv⟩
    exact ⟨hs, hd, hb, fun r hr => absurd (by rw [hr]; simp) hlast⟩
  · refine ⟨fun hv => ?_, fun hv => ?_⟩
    · have hspaced : Spaced y := hs.left_of_append
      rw [marked, if_pos rfl, hv.closing y rfl, hspaced.squeeze_eq]
      exact withTrail_marked _ hlast
    · have hlt : mass (trimEnd y) < mass y := mass_trimEnd_lt fun he => hv
        ⟨hs, hd, hb, fun r hr => (List.append_cancel_right hr) ▸ he⟩
      have hmass := mass_marked_le true path y
      rw [if_pos rfl] at hmass
      rw [mass_append, mass_slash, mass_nil]
      omega

/-- A query that is squeezed or trimmed loses more than a slash at its end gives back. -/
theorem mass_marked_lt {y : List Char} (path : List Char) (hlost : ¬ (Spaced q ∧ trimEnd q = q))
    (hcases : (squeeze (trimEnd q) = y ∧ trail = false) ∨
      (squeeze (trimEnd q) = y ++ ['/'] ∧ trail = true)) :
    mass (marked trail path y) < mass path + mass q := by
  have hlt := mass_squeeze_trimEnd_lt hlost
  have htrim : mass (trimEnd y) ≤ mass y := mass_le_of_sublist (prefix_trimEnd y).sublist
  have hmass := mass_marked_le trail path y
  rcases hcases with ⟨he, rfl⟩ | ⟨he, rfl⟩
  · rw [if_neg (by decide)] at hmass
    rw [he] at hlt
    omega
  · rw [if_pos rfl] at hmass
    rw [he, mass_append, mass_slash, mass_nil] at hlt
    omega

/-- Where the walk passes no dot segment, the query stays as it is just when nothing in it is
squeezed or trimmed. -/
theorem normalize_plain (hblank : ∀ c ∈ join '/' (opened.reverse ++ [a]), isBlank c = false)
    (hq : split '/' (squeeze (trimEnd q)) = b :: rest)
    (hw : walk ((a ++ '?' :: b) :: opened) rest = some out) (hd : ∀ n ∈ rest, ¬ IsDots n)
    (ht : trail = true ↔ (squeeze (trimEnd q)).getLast? = some '/') :
    let there := normalize true trail (join '/' out.reverse)
    (Verbatim q → there = base opened.reverse a ++ '?' :: q) ∧
      (¬ Verbatim q → mass there < mass (base opened.reverse a) + mass q) := by
  intro there
  obtain ⟨hlast, hcases⟩ := closing_cases (spaced_squeeze _) hq rfl ht
  have hthere : there = marked trail (base opened.reverse a)
      (join '/' (b :: rest.filter fun n => !n.isEmpty)) := normalize_walked hblank hw hd
  have hclosing := hcases.imp_right fun h => And.intro h.1 h.2.1
  rw [hthere]
  by_cases hkept : Spaced q ∧ trimEnd q = q
  · have hself : squeeze (trimEnd q) = q := by rw [hkept.2, hkept.1.squeeze_eq]
    rw [hself] at hq hclosing
    exact marked_of_kept _ hkept.1 hkept.2 (by rwa [hq]) hlast hclosing
  · exact ⟨fun hv => absurd ⟨hv.spaced, hv.blank⟩ hkept,
      fun _ => mass_marked_lt _ hkept hclosing⟩

/-- Behind a path that is resolved with it a query stays as it is, or has less mass. -/
theorem normalize_query (hs : ∀ n ∈ opened, n ≠ [] ∧ '/' ∉ n) (ha : '/' ∉ a)
    (hblank : ∀ c ∈ join '/' (opened.reverse ++ [a]), isBlank c = false)
    (hq : split '/' (squeeze (trimEnd q)) = b :: rest)
    (hw : walk ((a ++ '?' :: b) :: opened) rest = some out)
    (ht : trail = true ↔ (squeeze (trimEnd q)).getLast? = some '/') :
    let there := normalize true trail (join '/' out.reverse)
    (Verbatim q → there = base opened.reverse a ++ '?' :: q) ∧
      (¬ Verbatim q → mass there < mass (base opened.reverse a) + mass q) := by
  by_cases hd : ∃ n ∈ rest, IsDots n
  · have hclose : trail = true → rest.getLast? = some [] := fun h => by
      rcases (closing_cases (spaced_squeeze _) hq rfl ht).2 with ⟨-, hfalse⟩ | ⟨-, -, hclose⟩
      · rw [h] at hfalse
        cases hfalse
      · exact hclose
    have hlt := normalize_dots_lt hs ha hw hd hclose
    have hle : mass (squeeze (trimEnd q)) ≤ mass q :=
      mass_le_of_sublist ((squeeze_sublist _).trans (prefix_trimEnd q).sublist)
    rw [← hq, join_split] at hlt
    refine ⟨fun hv => ?_, fun _ => hlt.trans_le (by omega)⟩
    obtain ⟨n, hn, hd⟩ := hd
    rw [hv.blank, hv.spaced.squeeze_eq] at hq
    exact absurd hd (hv.dotless n (by rw [hq]; exact hn))
  · exact normalize_plain hblank hq hw (fun n hn hdots => hd ⟨n, hn, hdots⟩) ht

end Marks

end Chars

namespace Location
open Chars

/-- The places that a walk along a path starts from, innermost first. -/
def start (l : Location) (path : List Char) : List (List Char) :=
  if path.head? = some '/' then [] else places l.current.toList

/-- The path that a walk along a path ends on. -/
def arrival (path : List Char) (out : List (List Char)) : String :=
  .ofList (Chars.normalize true (path.getLast? == some '/') (join '/' out.reverse))

theorem resolve_eq_ok_iff {l : Location} {input p : String} {path : List Char} (hd : input ≠ "-")
    (he : input ≠ "") (hpath : Chars.normalize false false input.toList = path) :
    l.resolve input = .ok p ↔
      ∃ out, walk (l.start path) (split '/' path) = some out ∧ p = arrival path out := by
  have hstart : (if path.head? = some '/' then [] else places l.current.toList) =
      l.start path := rfl
  cases hw : walk (l.start path) (split '/' path) with
  | none =>
    have hresolve : l.resolve input = .error ⟨.ofList path⟩ := by
      simp only [resolve, if_neg hd, if_neg he, hpath, hstart, hw]
    simp [hresolve]
  | some out =>
    have hresolve : l.resolve input = .ok (arrival path out) := by
      simp only [resolve, if_neg hd, if_neg he, hpath, hstart, hw]
      by_cases hl : path.getLast? = some '/' <;> simp [arrival, Chars.normalize, hl]
    simp [hresolve, eq_comm]

/-- A path that is resolved as far as it goes before a query: it is not the one that stands for
the previous path, its last segment is no dot or two, and neither it nor the working path,
where it starts from there, has a blank. -/
structure Steady (l : Location) (p : String) : Prop where
  ne : p ≠ ""
  dash : p ≠ "-"
  dotless : ∀ n, (Text.split '/' p).getLast? = some n → n ≠ "." ∧ n ≠ ".."
  blank : ∀ c ∈ p.toList, isBlank c = false
  place : Text.startsWith '/' p = false → ∀ c ∈ l.current.toList, isBlank c = false

theorem mem_start {l : Location} {path n : List Char} (h : n ∈ l.start path) :
    path.head? ≠ some '/' ∧ n ∈ names l.current.toList := by
  unfold start at h
  split at h
  · cases h
  · rename_i hhead
    exact ⟨hhead, by simpa [places_eq] using h⟩

namespace Steady
variable {l : Location} {p : String} {init opened : List (List Char)} {a : List Char}

theorem squeeze_ne_nil (h : l.Steady p) : squeeze p.toList ≠ [] := by
  rw [Ne, squeeze_eq_nil_iff, String.toList_eq_nil_iff]
  exact h.ne

theorem normalize_eq (h : l.Steady p) :
    Chars.normalize false false p.toList = squeeze p.toList := by
  rw [Chars.normalize, trim_eq_self h.blank]
  rfl

theorem normalize_query (h : l.Steady p) (q : String) :
    (Path.normalize false false (p ++ "?" ++ q)).toList =
      squeeze p.toList ++ '?' :: squeeze (trimEnd q.toList) := by
  have htrim : trim (p ++ "?" ++ q).toList = p.toList ++ '?' :: trimEnd q.toList := by
    simpa using trim_splice h.blank (by decide) q.toList
  rw [Path.toList_normalize, Chars.normalize, htrim]
  exact squeeze_marked _ _

theorem not_dots (h : l.Steady p) (hs : split '/' (squeeze p.toList) = init ++ [a]) :
    ¬ IsDots a := by
  have hlast : (split '/' p.toList).getLast? = some a := by
    rw [← getLast?_split_squeeze, hs]
    simp
  have ha := h.dotless (.ofList a) (by simp [Text.split, hlast])
  rintro (rfl | rfl)
  · exact ha.1 rfl
  · exact ha.2 rfl

/-- The names that a walk opens before the last segment, and the segment. -/
theorem segments (h : l.Steady p) (hs : split '/' (squeeze p.toList) = init ++ [a])
    (hw : walk (l.start (squeeze p.toList)) init = some opened) :
    (∀ n ∈ opened, n ≠ [] ∧ '/' ∉ n) ∧ '/' ∉ a ∧
      ∀ c ∈ join '/' (opened.reverse ++ [a]), isBlank c = false := by
  have hsegment : ∀ n ∈ init ++ [a], '/' ∉ n ∧ ∀ c ∈ n, isBlank c = false := by
    intro n hn
    rw [← hs] at hn
    exact ⟨notMem_of_mem_split hn, fun c hc =>
      h.blank c ((squeeze_sublist _).subset (mem_of_mem_split hn hc))⟩
  have hopened : ∀ n ∈ opened, (n ≠ [] ∧ '/' ∉ n) ∧ ∀ c ∈ n, isBlank c = false := by
    intro n hn
    rcases mem_of_walk hw hn with ho | ⟨hi, hne, -⟩
    · obtain ⟨hhead, hmem⟩ := mem_start ho
      obtain ⟨hm, hne⟩ := mem_names.1 hmem
      rw [head?_squeeze] at hhead
      have hplace := h.place (by simpa [Text.startsWith] using hhead)
      exact ⟨⟨hne, notMem_of_mem_split hm⟩, fun c hc => hplace c (mem_of_mem_split hm hc)⟩
    · obtain ⟨hslash, hblank⟩ := hsegment n (by simp [hi])
      exact ⟨⟨hne, hslash⟩, hblank⟩
  refine ⟨fun n hn => (hopened n hn).1, (hsegment a (by simp)).1, fun c hc => ?_⟩
  rcases mem_join hc with rfl | ⟨n, hn, hc⟩
  · exact isBlank_slash
  · rcases List.mem_append.1 hn with hn | hn
    · exact (hopened n (List.mem_reverse.1 hn)).2 c hc
    · exact (hsegment n (by simp_all)).2 c hc

/-- Alone, the path leads to its names and its last segment. -/
theorem resolve (h : l.Steady p) (hs : split '/' (squeeze p.toList) = init ++ [a])
    (hw : walk (l.start (squeeze p.toList)) init = some opened) :
    l.resolve p = .ok (.ofList (base opened.reverse a)) := by
  refine (resolve_eq_ok_iff h.dash h.ne h.normalize_eq).2
    ⟨if a = [] then opened else a :: opened, ?_, ?_⟩
  · rw [hs, walk_append, hw, Option.bind_some]
    by_cases ha : a = []
    · simp [walk, ha]
    · rw [walk_name ha (h.not_dots hs), if_neg ha]
      rfl
  · obtain ⟨-, -, hblank⟩ := h.segments hs hw
    have htrail : ((squeeze p.toList).getLast? == some '/') = true ↔ a = [] := by
      rw [beq_iff_eq]
      exact getLast?_eq_sep_iff hs h.squeeze_ne_nil
    rw [← normalize_names hblank _ htrail, arrival]
    by_cases ha : a = [] <;> simp [ha]

end Steady

/-- What names without blanks lead to starts with a slash, and has no two together. -/
theorem base_clean {ns : List (List Char)} {a : List Char}
    (hblank : ∀ c ∈ join '/' (ns ++ [a]), isBlank c = false) :
    (base ns a).head? = some '/' ∧ Spaced (base ns a) ∧ ∀ c ∈ base ns a, isBlank c = false := by
  refine ⟨head?_withLead _, (spaced_squeeze _).withLead, fun c hc => ?_⟩
  rcases mem_of_mem_withLead hc with rfl | hc
  · exact isBlank_slash
  · exact hblank c ((squeeze_sublist _).subset hc)

theorem getLast?_splice_iff (x y : List Char) :
    ((x ++ '?' :: y).getLast? == some '/') = true ↔ y.getLast? = some '/' := by
  rw [beq_iff_eq, List.getLast?_append_of_ne_nil _ (by simp)]
  cases y with
  | nil => simp
  | cons c r => rw [List.getLast?_cons_cons]

/-- Resolved with a query behind it, a path that stays before one leads to where it does alone.
The query comes out as it was, or what comes out has less mass. -/
theorem resolve_query {l : Location} {p q there : String} (h : l.Steady p)
    (hq : l.resolve (Path.normalize false false (p ++ "?" ++ q)) = .ok there) :
    ∃ r, l.resolve p = .ok r ∧
      (r.toList.head? = some '/' ∧ Spaced r.toList ∧ ∀ c ∈ r.toList, isBlank c = false) ∧
      there.toList.head? = some '/' ∧
      (Verbatim q.toList → there = r ++ "?" ++ q) ∧
      (¬ Verbatim q.toList → mass there.toList < mass r.toList + mass q.toList) := by
  have hslash : '?' ≠ '/' := by decide
  obtain ⟨init, a, b, rest, hpath, hquery, hboth⟩ := split_splice hslash
    (squeeze p.toList) (squeeze (trimEnd q.toList))
  have hnorm := h.normalize_query q
  have hmark : '?' ∈ (Path.normalize false false (p ++ "?" ++ q)).toList := by
    rw [hnorm]
    simp
  have hagain : Chars.normalize false false (Path.normalize false false (p ++ "?" ++ q)).toList =
      squeeze p.toList ++ '?' :: squeeze (trimEnd q.toList) := by
    rw [← hnorm, Path.toList_normalize, normalize_normalize]
  obtain ⟨out, hw, rfl⟩ := (resolve_eq_ok_iff (fun he => by rw [he] at hmark; simp at hmark)
    (fun he => by rw [he] at hmark; simp at hmark) hagain).1 hq
  -- the walk along the path, and the one along the query from where the path leads
  have hstart : l.start (squeeze p.toList ++ '?' :: squeeze (trimEnd q.toList)) =
      l.start (squeeze p.toList) := by
    rw [start, start, List.head?_append_of_ne_nil _ h.squeeze_ne_nil]
  rw [hstart, hboth, walk_append] at hw
  obtain ⟨opened, hopened, hw⟩ := Option.bind_eq_some_iff.1 hw
  have hname : ¬ IsDots (a ++ '?' :: b) := by
    rintro (he | he) <;> simpa using congrArg (fun cs => '?' ∈ cs) he
  rw [walk_name (by simp) hname] at hw
  obtain ⟨hs, ha, hblank⟩ := h.segments hpath hopened
  obtain ⟨hkept, hlost⟩ := normalize_query hs ha hblank hquery hw (getLast?_splice_iff _ _)
  refine ⟨_, h.resolve hpath hopened, ?_, ?_, fun hv => ?_, fun hv => ?_⟩
  · rw [String.toList_ofList]
    exact base_clean hblank
  · rw [arrival, String.toList_ofList]
    exact head?_normalize _ _
  · rw [← String.toList_inj, arrival, String.toList_ofList, hkept hv]
    simp
  · rw [arrival, String.toList_ofList, String.toList_ofList]
    exact hlost hv

end Location
end RestShell
