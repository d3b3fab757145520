import RestShell.Proofs.Address.PathQuery

/-! Walking in steps. Where nothing blank comes in, a path is its names and the slash that closes
it: a location holds the names that the walk to it ended on, so a second walk goes on from there
as if the two paths were one. Going back is a step like any other, and undoes itself. -/

namespace RestShell

namespace Chars

/-- Segments that are empty lead nowhere. -/
theorem walk_split (opened : List (List Char)) (cs : List Char) :
    walk opened (split '/' cs) = walk opened (names cs) := by
  unfold names
  induction split '/' cs generalizing opened with
  | nil => rfl
  | cons n r ih =>
    by_cases hn : n = []
    · simpa [walk, hn] using ih opened
    · rw [List.filter_cons_of_pos (by simpa using hn)]
      simp only [walk, ih]

/-- Names as they stand between the slashes of a path with nothing blank in it. -/
structure Clean (ns : List (List Char)) : Prop where
  ne : ∀ n ∈ ns, n ≠ []
  slash : ∀ n ∈ ns, '/' ∉ n
  blank : ∀ n ∈ ns, ∀ c ∈ n, isBlank c = false

theorem clean_names {cs : List Char} (h : ∀ c ∈ cs, isBlank c = false) : Clean (names cs) where
  ne _ hn := (mem_names.1 hn).2
  slash _ hn := notMem_of_mem_split (mem_names.1 hn).1
  blank _ hn c hc := h c (mem_of_mem_split (mem_names.1 hn).1 hc)

namespace Clean
variable {ns opened closed : List (List Char)}

theorem reverse (h : Clean ns) : Clean ns.reverse where
  ne n hn := h.ne n (List.mem_reverse.1 hn)
  slash n hn := h.slash n (List.mem_reverse.1 hn)
  blank n hn := h.blank n (List.mem_reverse.1 hn)

theorem join_blank (h : Clean ns) : ∀ c ∈ join '/' ns, isBlank c = false := by
  intro c hc
  rcases mem_join hc with rfl | ⟨n, hn, hc⟩
  · exact isBlank_slash
  · exact h.blank n hn c hc

theorem walk (h : Clean opened) (hn : Clean ns) (hw : walk opened ns = some closed) :
    Clean closed := by
  have hmem {n : List Char} (hc : n ∈ closed) : n ∈ opened ∨ n ∈ ns :=
    (mem_of_walk hw hc).imp_right And.left
  refine ⟨fun n hc => ?_, fun n hc => ?_, fun n hc => ?_⟩
  · exact (hmem hc).elim (h.ne n) (hn.ne n)
  · exact (hmem hc).elim (h.slash n) (hn.slash n)
  · exact (hmem hc).elim (h.blank n) (hn.blank n)

/-- The path of clean names has these names. -/
theorem names_normalize (h : Clean ns) (trail : Bool) :
    names (normalize true trail (join '/' ns)) = ns := by
  rw [Chars.names_normalize, trim_eq_self h.join_blank, names_join h.slash, List.filter_eq_self]
  simpa using h.ne

end Clean
end Chars

/-- Nothing in the text is blank. -/
def Text.Unblank (s : String) : Prop := ∀ c ∈ s.toList, Chars.isBlank c = false

instance (s : String) : Decidable (Text.Unblank s) :=
  decidable_of_iff (s.toList.all (! Chars.isBlank ·) = true) (by simp [Text.Unblank])

namespace Location
open Chars Text

variable {l : Location} {a b p : String}

theorem clean_start (hl : Unblank l.current) (path : List Char) : Clean (l.start path) := by
  unfold start
  split
  · exact ⟨nofun, nofun, nofun⟩
  · rw [places_eq]
    exact (clean_names hl).reverse

/-- Without blanks, an input is walked along by its names. -/
theorem resolve_iff_walk (h : Unblank a) (hdash : a ≠ "-") (hne : a ≠ "") :
    l.resolve a = .ok p ↔
      ∃ out, walk (l.start a.toList) (names a.toList) = some out ∧ p = arrival a.toList out := by
  have hpath : Chars.normalize false false a.toList = squeeze a.toList := by
    rw [Chars.normalize, trim_eq_self h]
    rfl
  have hstart : l.start (squeeze a.toList) = l.start a.toList := by
    rw [start, start, head?_squeeze]
  have harrival (out : List (List Char)) :
      arrival (squeeze a.toList) out = arrival a.toList out := by
    rw [arrival, arrival, getLast?_squeeze]
  rw [resolve_eq_ok_iff hdash hne hpath, walk_split, names_squeeze, hstart]
  simp only [harrival]

theorem unblank_arrival {out : List (List Char)} (h : Clean out) (path : List Char) :
    Unblank (arrival path out) := by
  intro c hc
  rw [arrival, String.toList_ofList] at hc
  rcases mem_of_mem_normalize hc with rfl | hc
  · exact isBlank_slash
  · exact h.reverse.join_blank c hc

/-- Inputs without blanks lead to paths without. -/
theorem unblank_resolve (hc : Unblank l.current) (hp : Unblank l.previous) (h : Unblank a)
    (hr : l.resolve a = .ok p) : Unblank p := by
  by_cases hdash : a = "-"
  · rw [resolve, if_pos hdash] at hr
    exact Except.ok.inj hr ▸ hp
  by_cases hne : a = ""
  · rw [resolve, if_neg hdash, if_pos hne] at hr
    exact Except.ok.inj hr ▸ hc
  · obtain ⟨out, hw, rfl⟩ := (resolve_iff_walk h hdash hne).1 hr
    exact unblank_arrival ((clean_start hc _).walk (clean_names h) hw) _

theorem unblank_enterAll {inputs : List String} (h : ∀ i ∈ inputs, Unblank i) :
    Unblank (root.enterAll inputs).current :=
  (enterAll_invariant Unblank (by decide) inputs
    fun _ hc hp i hi _ hr => unblank_resolve hc hp (h i hi) hr).1

/-- A walk goes on from where a location was left. -/
theorem start_arrival {out : List (List Char)} (h : Clean out) (path : List Char)
    {previous : String} (hb : startsWith '/' b = false) :
    start ⟨arrival path out, previous⟩ b.toList = out := by
  have hhead : b.toList.head? ≠ some '/' := by simpa [startsWith] using hb
  rw [start, if_neg hhead, places_eq, arrival, String.toList_ofList, h.reverse.names_normalize,
    List.reverse_reverse]

theorem enter_eq_ok_iff {m : Location} :
    l.enter a = .ok m ↔ ∃ q, l.resolve a = .ok q ∧ m = ⟨q, l.current⟩ := by
  cases h : l.resolve a <;> simp [enter, h, Except.map, eq_comm]

/-- Two paths joined by a slash lead where the second leads from the end of the first. -/
theorem resolve_joined_iff (hl : Unblank l.current) (ha : Unblank a) (ha' : a ≠ "" ∧ a ≠ "-")
    (hb : Unblank b) (hb' : b ≠ "" ∧ b ≠ "-") (hrelative : startsWith '/' b = false) :
    l.resolve (a ++ "/" ++ b) = .ok p ↔ ∃ m, l.enter a = .ok m ∧ m.resolve b = .ok p := by
  have hlist : (a ++ "/" ++ b).toList = a.toList ++ '/' :: b.toList := by simp
  have hane : a.toList ≠ [] := mt String.toList_eq_nil_iff.1 ha'.1
  have hbne : b.toList ≠ [] := mt String.toList_eq_nil_iff.1 hb'.1
  have hjoined : Unblank (a ++ "/" ++ b) := by
    intro c hc
    rw [hlist, List.mem_append, List.mem_cons] at hc
    rcases hc with hc | rfl | hc
    · exact ha c hc
    · exact isBlank_slash
    · exact hb c hc
  have hslash : '/' ∈ (a ++ "/" ++ b).toList := by simp
  have hdash : a ++ "/" ++ b ≠ "-" := fun he => by rw [he] at hslash; simp at hslash
  have hempty : a ++ "/" ++ b ≠ "" := fun he => by rw [he] at hslash; simp at hslash
  have hstart : l.start (a.toList ++ '/' :: b.toList) = l.start a.toList := by
    rw [start, start, List.head?_append_of_ne_nil _ hane]
  have harrival (out : List (List Char)) :
      arrival (a.toList ++ '/' :: b.toList) out = arrival b.toList out := by
    rw [arrival, arrival, List.getLast?_append_of_ne_nil _ (by simp),
      List.getLast?_cons_of_ne_nil hbne]
  rw [resolve_iff_walk hjoined hdash hempty, hlist, hstart, names_append, walk_append]
  simp only [harrival, Option.bind_eq_some_iff, enter_eq_ok_iff]
  constructor
  · rintro ⟨out, ⟨mid, hmid, hout⟩, rfl⟩
    have hclean : Clean mid := (clean_start hl _).walk (clean_names ha) hmid
    refine ⟨_, ⟨_, (resolve_iff_walk ha ha'.2 ha'.1).2 ⟨mid, hmid, rfl⟩, rfl⟩, ?_⟩
    refine (resolve_iff_walk hb hb'.2 hb'.1).2 ⟨out, ?_, rfl⟩
    rwa [start_arrival hclean _ hrelative]
  · rintro ⟨m, ⟨q, hq, rfl⟩, hp⟩
    obtain ⟨mid, hmid, rfl⟩ := (resolve_iff_walk ha ha'.2 ha'.1).1 hq
    have hclean : Clean mid := (clean_start hl _).walk (clean_names ha) hmid
    obtain ⟨out, hout, rfl⟩ := (resolve_iff_walk hb hb'.2 hb'.1).1 hp
    rw [start_arrival hclean _ hrelative] at hout
    exact ⟨out, ⟨mid, hmid, hout⟩, rfl⟩

theorem enter_dash (l : Location) : l.enter "-" = .ok ⟨l.previous, l.current⟩ := rfl

theorem step_of_error {e : Path.OutOfBounds} (h : l.enter a = .error e) : l.step a = l := by
  rw [step, h]

/-- After any run of inputs without blanks, walking along two paths joined by a slash succeeds just
when walking along the one and then along the other does, and leads to the same path. From any
location, going back behind a move leads to where it began, going back twice changes nothing, and
no more does a move that fails. -/
theorem enter_steps (inputs : List String) (h : ∀ i ∈ inputs, Unblank i) :
    (∀ a b, Unblank a → a ≠ "" ∧ a ≠ "-" →
      Unblank b → b ≠ "" ∧ b ≠ "-" → startsWith '/' b = false → ∀ p,
        (root.enterAll inputs).resolve (a ++ "/" ++ b) = .ok p ↔
          ∃ m, (root.enterAll inputs).enter a = .ok m ∧ m.resolve b = .ok p) ∧
    ∀ l : Location,
      (∀ input m, l.enter input = .ok m → m.enter "-" = .ok ⟨l.current, m.current⟩) ∧
      (∃ m, l.enter "-" = .ok m ∧ m.enter "-" = .ok l) ∧
      ∀ input e, l.enter input = .error e → l.step input = l := by
  refine ⟨fun a b ha ha' hb hb' hrelative p => ?_, fun l => ⟨fun input m hm => ?_, ?_, ?_⟩⟩
  · exact resolve_joined_iff (unblank_enterAll h) ha ha' hb hb' hrelative
  · obtain ⟨q, -, rfl⟩ := enter_eq_ok_iff.1 hm
    exact enter_dash _
  · exact ⟨_, enter_dash l, enter_dash _⟩
  · exact fun input e he => step_of_error he

/-- Up and down across the joint, with slashes and dots that lead nowhere. -/
theorem enter_steps_docs :
    (∀ i ∈ ["/api/docs//", "../../..", "./v1/"], Unblank i) ∧
    (root.enterAll ["/api/docs//", "../../..", "./v1/"]).resolve
      ("../guide//" ++ "/" ++ "./x/../b/") = .ok "/api/docs/guide/b/" ∧
    ∃ m, (root.enterAll ["/api/docs//", "../../..", "./v1/"]).enter "../guide//" = .ok m ∧
      m.resolve "./x/../b/" = .ok "/api/docs/guide/b/" := by
  have hinputs : ∀ i ∈ ["/api/docs//", "../../..", "./v1/"], Unblank i := by decide
  have hjoined : (root.enterAll ["/api/docs//", "../../..", "./v1/"]).resolve
      ("../guide//" ++ "/" ++ "./x/../b/") = .ok "/api/docs/guide/b/" := by rfl
  exact ⟨hinputs, hjoined, ((enter_steps _ hinputs).1 _ _ (by decide) (by decide) (by decide)
    (by decide) (by decide) _).1 hjoined⟩

end Location
end RestShell
