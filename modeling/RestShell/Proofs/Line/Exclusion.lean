import Mathlib.Data.List.MinMax
import RestShell.Proofs.Line.Paths

/-! Excluding nodes from a value, one path after the other. What a path takes out of a list lets the
elements behind it fall by one place, and the paths that follow lead to where they stand by then.
Main statement: the order and number of the paths do not matter, and each leads to nodes of the
value as it came, just when no path takes one element out of a list that stays. -/

namespace RestShell

open Json

namespace Projection
variable {path : List String} {ps qs : List (List String)} {b p : Position} {v : Value}

/-- Some path leads to a node where it stands in the value as it came. -/
def named (ps : List (List String)) (p : Position) : Bool := ps.any (leads · p)

/-- Some path leads to a node where it stands when it is the turn of the path. -/
def excluded : List (List String) → Position → Bool
  | [], _ => false
  | path :: rest, p => leads path p || excluded rest (renumber (leads path) p)

/-- A path takes one element out of the list at a position. -/
def Plucks (path : List String) (b : Position) : Prop :=
  ∃ r s i, path = r ++ [s] ∧ leads r b = true ∧ Text.index? s = some i

/-- Whenever a path takes one element out of a list, the paths name all elements of the list. -/
def Steady (ps : List (List String)) : Prop :=
  ∀ path ∈ ps, ∀ b, Plucks path b → ∀ j, struck (named ps) (b ++ [.index j]) = true

theorem prune_eq_without {paths : List String} (hp : ∀ path ∈ paths, WellFormed path)
    (hv : v.Distinct) : prune v paths = .ok (v.without (excluded (paths.map parsed))) := by
  induction paths generalizing v with
  | nil =>
    have hself : v.without (excluded []) = v := Value.without_of_none (fun _ _ => rfl) v
    rw [List.map_nil, hself]
    rfl
  | cons path rest ih =>
    obtain ⟨hpath, hrest⟩ := List.forall_mem_cons.1 hp
    calc prune v (path :: rest)
        = prune (remove (parsed path) v) rest := by rw [prune, segments_eq_parsed hpath]; rfl
      _ = .ok ((v.without (leads (parsed path))).without (excluded (rest.map parsed))) := by
          rw [remove_eq_without hv, ih hrest (hv.without _)]
      _ = .ok (v.without (excluded ((path :: rest).map parsed))) := by
          rw [Value.without_without]
          rfl

section Striking

theorem struck_excluded_cons (path : List String) (rest : List (List String)) (p : Position) :
    struck (excluded (path :: rest)) p =
      (struck (leads path) p || struck (excluded rest) (renumber (leads path) p)) :=
  struck_or_renumber (leads path) (excluded rest) p

theorem struck_excluded_nil (p : Position) : struck (excluded []) p = false := by
  induction p with
  | nil => rfl
  | cons e p ih => exact ih

theorem struck_named_iff :
    struck (named ps) p = true ↔ ∃ path ∈ ps, struck (leads path) p = true := by
  have hany : struck (named ps) p = ps.any fun path => struck (leads path) p := struck_any ps leads p
  rw [hany, List.any_eq_true]

theorem named_congr (h : ∀ path, path ∈ qs ↔ path ∈ ps) : named qs = named ps := by
  funext p
  rw [named, named, Bool.eq_iff_iff, List.any_eq_true, List.any_eq_true]
  exact exists_congr fun path => and_congr_left' (h path)

/-- A step that a path does not end on keeps its number, unless it is one into a list that the path
takes one element out of. -/
theorem renumber_edge {s : String} {e : Edge} (h : leads (s :: path) [e] = false)
    (hpluck : ¬ (path = [] ∧ ∃ i, e = .index i ∧ (Text.index? s).isSome = true)) :
    e.renumber (leads (s :: path)) = e := by
  cases e with
  | key k => rfl
  | index i =>
    have hcount : Nat.count (fun j => leads (s :: path) [.index j] = false) i = i := by
      refine Nat.count_iff_forall.2 fun j _ => ?_
      cases path with
      | cons t path => rw [leads_cons, leads_cons_nil, Bool.and_false]
      | nil =>
        -- the segment is no index, and no star, which would end on the step
        have hnone : Text.index? s = none := by
          rw [← Option.not_isSome_iff_eq_none]
          exact fun hs => hpluck ⟨rfl, i, rfl, hs⟩
        have hs : s ≠ "*" := by
          rintro rfl
          simp [leads, answers_star] at h
        simp [leads, Edge.answers, hs, hnone]
    rw [Edge.renumber, hcount]

/-- A node that a path leaves stays in place, or the path takes an element out of a list above. -/
theorem renumber_leads (h : struck (leads path) p = false) :
    renumber (leads path) p = p ∨ ∃ b j c, p = b ++ .index j :: c ∧ Plucks path b := by
  induction path generalizing p with
  | nil => exact .inl (renumber_of_none fun q hq _ => leads_nil_of_ne hq)
  | cons s path ih =>
    cases p with
    | nil => exact .inl rfl
    | cons e p =>
      rw [struck, Bool.or_eq_false_iff] at h
      obtain ⟨hhead, hbelow⟩ := h
      by_cases hpluck : path = [] ∧ ∃ i, e = .index i ∧ (Text.index? s).isSome = true
      · obtain ⟨rfl, i, rfl, hs⟩ := hpluck
        obtain ⟨m, hm⟩ := Option.isSome_iff_exists.1 hs
        exact .inr ⟨[], i, p, rfl, [], s, m, rfl, rfl, hm⟩
      rw [renumber_cons, renumber_edge hhead hpluck]
      cases he : e.answers s with
      | false =>
        rw [renumber_of_none fun q _ _ => by rw [leads_cons, he, Bool.false_and]]
        exact .inl rfl
      | true =>
        have hrest : (fun q => leads (s :: path) (e :: q)) = leads path :=
          funext fun q => by rw [leads_cons, he, Bool.true_and]
        rw [hrest] at hbelow ⊢
        rcases ih hbelow with hp | ⟨b, j, c, rfl, r, t, i, rfl, hb, hi⟩
        · exact .inl (by rw [hp])
        · refine .inr ⟨e :: b, j, c, rfl, s :: r, t, i, rfl, ?_, hi⟩
          rw [leads_cons, he, hb]
          rfl

/-- What comes of the paths for a node that none of them moves. -/
theorem struck_excluded_of_inPlace (h : ∀ path ∈ qs, renumber (leads path) p = p) :
    struck (excluded qs) p = struck (named qs) p := by
  rw [Bool.eq_iff_iff, struck_named_iff]
  induction qs with
  | nil => simp [struck_excluded_nil]
  | cons path rest ih =>
    obtain ⟨hpath, hrest⟩ := List.forall_mem_cons.1 h
    rw [struck_excluded_cons, hpath, Bool.or_eq_true, ih hrest]
    simp

/-- A path that leads to all elements of a list empties it, wherever they stand by then. -/
theorem struck_excluded_of_star (hb : ∀ path ∈ qs, renumber (leads path) b = b)
    (hpath : path ∈ qs) (hall : ∀ j, leads path (b ++ [.index j]) = true) (j : Nat) :
    struck (excluded qs) (b ++ [.index j]) = true := by
  induction qs generalizing j with
  | nil => cases hpath
  | cons q rest ih =>
    obtain ⟨hq, hrest⟩ := List.forall_mem_cons.1 hb
    rw [struck_excluded_cons, Bool.or_eq_true]
    rcases List.mem_cons.1 hpath with rfl | hmem
    · exact .inl (by rw [struck_concat, hall, Bool.or_true])
    · refine .inr ?_
      rw [renumber_append, hq]
      exact ih hrest hmem _

theorem exists_bound (ps : List (List String)) :
    ∃ m, ∀ path ∈ ps, ∀ s ∈ path, ∀ i, Text.index? s = some i → i < m := by
  refine ⟨(ps.flatten.filterMap Text.index?).foldr max 0 + 1, fun path hpath s hs i hi => ?_⟩
  have hmem : i ∈ ps.flatten.filterMap Text.index? :=
    List.mem_filterMap.2 ⟨s, List.mem_flatten.2 ⟨path, hpath, hs⟩, hi⟩
  exact Nat.lt_succ_of_le (List.le_max_of_le' 0 hmem le_rfl)

/-- There are indices so high that an element there is named only with the whole list or with all
elements of it. -/
theorem exists_high (ps : List (List String)) (i : Nat) : ∃ m, i ≤ m ∧
    ∀ b, struck (named ps) (b ++ [.index m]) = true →
      struck (named ps) b = true ∨ ∃ path ∈ ps, ∀ j, leads path (b ++ [.index j]) = true := by
  obtain ⟨m, hm⟩ := exists_bound ps
  refine ⟨max i m, Nat.le_max_left i m, fun b h => ?_⟩
  obtain ⟨path, hpath, hstruck⟩ := struck_named_iff.1 h
  rw [struck_concat, Bool.or_eq_true] at hstruck
  rcases hstruck with hb | hleads
  · exact .inl (struck_named_iff.2 ⟨path, hpath, hb⟩)
  · obtain ⟨r, s, rfl, hr, hs⟩ := exists_of_leads_concat hleads
    refine .inr ⟨r ++ [s], hpath, fun j => ?_⟩
    have hstar : s = "*" := by
      by_contra hne
      have hi : Text.index? s = some (max i m) := by simpa [Edge.answers, hne] using hs
      have hlt := hm _ hpath s (by simp) _ hi
      omega
    rw [leads_concat, hr, hstar, answers_star]
    rfl

end Striking

section Steadiness

theorem struck_named_of_excluded (h : Steady ps) (hq : ∀ path ∈ qs, path ∈ ps)
    (hp : struck (excluded qs) p = true) : struck (named ps) p = true := by
  induction qs generalizing p with
  | nil => exact absurd hp (by rw [struck_excluded_nil]; decide)
  | cons path rest ih =>
    obtain ⟨hpath, hrest⟩ := List.forall_mem_cons.1 hq
    rw [struck_excluded_cons] at hp
    cases hs : struck (leads path) p with
    | true => exact struck_named_iff.2 ⟨path, hpath, hs⟩
    | false =>
      rw [hs, Bool.false_or] at hp
      rcases renumber_leads hs with heq | ⟨b, j, c, rfl, hpluck⟩
      · exact ih hrest (heq ▸ hp)
      · have hlist := struck_below (h path hpath b hpluck j) c
        rwa [List.append_assoc] at hlist

/-- Steady paths take nothing out of a list that stays with one of its elements. -/
theorem leads_of_stays (h : Steady ps) (hq : ∀ path, path ∈ qs ↔ path ∈ ps)
    (hb : ∀ path ∈ qs, renumber (leads path) b = b) (hstays : struck (excluded qs) b = false)
    {j : Nat} (hj : struck (excluded qs) (b ++ [.index j]) = false) (hpath : path ∈ qs) (i : Nat) :
    leads path (b ++ [.index i]) = false := by
  by_contra hleads
  rw [Bool.not_eq_false] at hleads
  have hgone : ∀ q ∈ qs, ¬ ∀ m, leads q (b ++ [.index m]) = true := by
    intro q hmem hall
    rw [struck_excluded_of_star hb hmem hall] at hj
    cases hj
  -- one element is taken out, and so are all, with a star or since the paths are steady
  obtain ⟨r, s, rfl, hr, hs⟩ := exists_of_leads_concat hleads
  by_cases hstar : s = "*"
  · exact hgone _ hpath fun m => by rw [leads_concat, hr, hstar, answers_star]; rfl
  · have hi : Text.index? s = some i := by simpa [Edge.answers, hstar] using hs
    have hplucks : Plucks (r ++ [s]) b := ⟨r, s, i, rfl, hr, hi⟩
    obtain ⟨m, -, hm⟩ := exists_high ps 0
    rcases hm b (h _ ((hq _).1 hpath) b hplucks m) with hnamed | ⟨q, hmem, hall⟩
    · rw [← named_congr hq, ← struck_excluded_of_inPlace hb, hstays] at hnamed
      cases hnamed
    · exact hgone q ((hq q).2 hmem) hall

/-- Steady paths move no node that they leave. -/
theorem inPlace_of_not_struck (h : Steady ps) (hq : ∀ path, path ∈ qs ↔ path ∈ ps)
    (hp : struck (excluded qs) p = false) : ∀ path ∈ qs, renumber (leads path) p = p := by
  induction p using List.reverseRecOn with
  | nil => exact fun _ _ => rfl
  | append_singleton b e ih =>
    have hstays : struck (excluded qs) b = false := by
      by_contra hb
      rw [Bool.not_eq_false] at hb
      rw [struck_below hb] at hp
      cases hp
    have hb := ih hstays
    intro path hpath
    rw [renumber_append, hb path hpath]
    cases e with
    | key k => rfl
    | index j =>
      have hcount : Nat.count (fun i => leads path (b ++ [.index i]) = false) j = j :=
        Nat.count_iff_forall.2 fun i _ => leads_of_stays h hq hb hstays hp hpath i
      have hone : renumber (fun r => leads path (b ++ r)) [.index j] =
          [.index (Nat.count (fun i => leads path (b ++ [.index i]) = false) j)] := rfl
      rw [hone, hcount]

theorem struck_excluded_of_steady (h : Steady ps) (hq : ∀ path, path ∈ qs ↔ path ∈ ps)
    (p : Position) : struck (excluded qs) p = struck (named ps) p := by
  cases hp : struck (excluded qs) p with
  | true => exact (struck_named_of_excluded h (fun path => (hq path).1) hp).symm
  | false =>
    rw [← named_congr hq, ← struck_excluded_of_inPlace (inPlace_of_not_struck h hq hp), hp]

theorem count_ne (i m : Nat) : Nat.count (fun j => i ≠ j) m = if i < m then m - 1 else m := by
  induction m with
  | zero => rfl
  | succ m ih =>
    rw [Nat.count_succ, ih]
    split_ifs <;> omega

/-- A path that takes one element out of a list takes the next one when it is repeated. -/
theorem struck_excluded_replicate {r : List String} {s : String} {i : Nat} (hr : leads r b = true)
    (hi : Text.index? s = some i) (n : Nat) {m : Nat} (hle : i ≤ m) (hlt : m < i + n) :
    struck (excluded (List.replicate n (r ++ [s]) ++ qs)) (b ++ [.index m]) = true := by
  have hs : s ≠ "*" := by
    rintro rfl
    have hnone : Text.index? "*" = none := by decide
    rw [hnone] at hi
    cases hi
  have hleads (j : Nat) : leads (r ++ [s]) (b ++ [.index j]) = decide (i = j) := by
    rw [leads_concat, hr, Bool.true_and]
    simp [Edge.answers, hs, hi]
  induction n generalizing m with
  | zero => omega
  | succ n ih =>
    rw [List.replicate_succ, List.cons_append, struck_excluded_cons, Bool.or_eq_true]
    by_cases hm : m = i
    · exact .inl (by rw [struck_concat, hleads, hm]; simp)
    · refine .inr ?_
      have hb : renumber (leads (r ++ [s])) b = b := by
        refine renumber_of_none fun q _ hq => ?_
        by_contra hlead
        rw [Bool.not_eq_false] at hlead
        have hlength := length_of_leads hlead
        rw [List.length_append, ← length_of_leads hr, List.length_singleton] at hlength
        omega
      have hcount : Nat.count (fun j => leads (r ++ [s]) (b ++ [.index j]) = false) m = m - 1 := by
        simp only [hleads, decide_eq_false_iff_not]
        rw [count_ne, if_pos (by omega)]
      have hone : renumber (fun q => leads (r ++ [s]) (b ++ q)) [.index m] = [.index (m - 1)] := by
        rw [← hcount]
        rfl
      rw [renumber_append, hb, hone]
      exact ih (by omega) (by omega)

/-- Paths that are not steady take too much when one of them is repeated. -/
theorem steady_of_struck_excluded (h : ∀ path ∈ ps, ∀ n p,
      struck (excluded (List.replicate n path ++ ps)) p = struck (named ps) p) : Steady ps := by
  rintro path hpath b ⟨r, s, i, rfl, hr, hi⟩ j
  obtain ⟨m, him, hm⟩ := exists_high ps i
  have hstruck : struck (named ps) (b ++ [.index m]) = true := by
    rw [← h _ hpath (m - i + 1)]
    exact struck_excluded_replicate hr hi _ him (by omega)
  rcases hm b hstruck with hb | ⟨q, hmem, hall⟩
  · exact struck_below hb _
  · refine struck_named_iff.2 ⟨q, hmem, ?_⟩
    rw [struck_concat, hall, Bool.or_true]

end Steadiness

section Pruning
variable {paths others : List String}

theorem wellFormed_of_mem_iff (hp : ∀ path ∈ paths, WellFormed path)
    (ho : ∀ path, path ∈ others ↔ path ∈ paths) : ∀ path ∈ others, WellFormed path :=
  fun path h => hp path ((ho path).1 h)

theorem mem_parsed_iff (ho : ∀ path, path ∈ others ↔ path ∈ paths) (p : List String) :
    p ∈ others.map parsed ↔ p ∈ paths.map parsed := by
  simp only [List.mem_map, ho]

/-- Paths prune every value by what they name, just when they strike the positions they name. -/
theorem prune_eq_named_iff (ho : ∀ path ∈ others, WellFormed path) :
    (∀ v : Value, v.Distinct → prune v others = .ok (v.without (named ps))) ↔
      ∀ p, struck (excluded (others.map parsed)) p = struck (named ps) p := by
  constructor
  · intro h p
    refine Value.struck_of_without_eq (fun v hv => ?_) p
    have hboth := (prune_eq_without ho hv).symm.trans (h v hv)
    exact Except.ok.inj hboth
  · intro h v hv
    rw [prune_eq_without ho hv, Value.without_congr h]

/-- Pruning takes from every value, path by path, what each of the well-formed paths leads to when
it is its turn. This is what the paths name in the value as it came, in whatever order and number
they are given, just when they are steady. -/
theorem prune_named_iff (hp : ∀ path ∈ paths, WellFormed path) :
    (∀ v : Value, v.Distinct →
      prune v paths = .ok (v.without (excluded (paths.map parsed)))) ∧
    ((∀ v : Value, v.Distinct → prune v paths = .ok (v.without (named (paths.map parsed)))) ↔
      ∀ p, struck (excluded (paths.map parsed)) p = struck (named (paths.map parsed)) p) ∧
    ((∀ others : List String, (∀ path, path ∈ others ↔ path ∈ paths) →
        ∀ v : Value, v.Distinct → prune v others = .ok (v.without (named (paths.map parsed)))) ↔
      Steady (paths.map parsed)) := by
  refine ⟨fun v hv => prune_eq_without hp hv, prune_eq_named_iff hp, fun h => ?_, fun h => ?_⟩
  · refine steady_of_struck_excluded fun p hmem n => ?_
    obtain ⟨path, hpath, rfl⟩ := List.mem_map.1 hmem
    have ho : ∀ q, q ∈ List.replicate n path ++ paths ↔ q ∈ paths := by
      intro q
      rw [List.mem_append, List.mem_replicate]
      exact ⟨fun h => h.elim (fun h => h.2 ▸ hpath) id, .inr⟩
    have hstruck := (prune_eq_named_iff (wellFormed_of_mem_iff hp ho)).1 (h _ ho)
    rwa [List.map_append, List.map_replicate] at hstruck
  · intro others ho
    exact (prune_eq_named_iff (wellFormed_of_mem_iff hp ho)).2
      (struck_excluded_of_steady h (mem_parsed_iff ho))

/-- An element of a list is named along with all of them. -/
theorem prune_named_overlap :
    (∀ path ∈ ["items.0", "items.*"], WellFormed path) ∧
    ∀ others : List String, (∀ path, path ∈ others ↔ path ∈ ["items.0", "items.*"]) →
      ∀ v : Value, v.Distinct →
        prune v others = .ok (v.without (named [["items", "0"], ["items", "*"]])) := by
  have hp : ∀ path ∈ ["items.0", "items.*"], WellFormed path := by
    intro path hmem
    simp only [List.mem_cons, List.not_mem_nil, or_false] at hmem
    rcases hmem with rfl | rfl
    · exact ⟨["items", "0"], by decide +kernel⟩
    · exact ⟨["items", "*"], by decide +kernel⟩
  have hparsed : ["items.0", "items.*"].map parsed = [["items", "0"], ["items", "*"]] := by
    decide +kernel
  have hsteady : Steady (["items.0", "items.*"].map parsed) := by
    rw [hparsed]
    rintro path hmem b ⟨r, s, i, rfl, hr, hi⟩ j
    refine struck_named_iff.2 ⟨["items", "*"], by simp, ?_⟩
    have hitems : r = ["items"] := by
      simp only [List.mem_cons, List.not_mem_nil, or_false] at hmem
      rcases hmem with h | h <;> simpa using congrArg List.dropLast h
    have hall : leads (["items"] ++ ["*"]) (b ++ [.index j]) = true := by
      rw [leads_concat, ← hitems, hr, answers_star]
      rfl
    rw [struck_concat, Bool.or_eq_true]
    exact .inr hall
  exact ⟨hp, hparsed ▸ (prune_named_iff hp).2.2.2 hsteady⟩

/-- When the first element of a list is gone, the second path leads to the last one. -/
theorem prune_shifts :
    let v : Value := .array [.number (.int 1), .number (.int 2), .number (.int 3)]
    (v.Distinct ∧ ∀ path ∈ ["0", "1"], WellFormed path) ∧
      prune v ["0", "1"] = .ok (.array [.number (.int 2)]) ∧
      prune v ["1", "0"] = .ok (.array [.number (.int 3)]) ∧
      v.without (named (["0", "1"].map parsed)) = .array [.number (.int 3)] := by
  refine ⟨⟨.array fun w hw => ?_, fun path hmem => ?_⟩, ?_⟩
  · simp only [List.mem_cons, List.not_mem_nil, or_false] at hw
    rcases hw with rfl | rfl | rfl <;> exact .number _
  · simp only [List.mem_cons, List.not_mem_nil, or_false] at hmem
    rcases hmem with rfl | rfl
    · exact ⟨["0"], by decide +kernel⟩
    · exact ⟨["1"], by decide +kernel⟩
  · decide +kernel

end Pruning

end Projection
end RestShell
