import RestShell.Proofs.Line.Exclusion
import RestShell.Proofs.Session.Replies

/-! Captures of a projection. Either every path of the arguments is well-formed, and each name in a
store holds what the last of its captures that selects anything selects, or one is not, and the
stores are left. What a capture selects is what an extract path selects. -/

namespace RestShell

open Json

/-- The name that a capture is for. A `+` behind it is a mark and no part of it. -/
def Capture.name (c : Capture) : String := (Text.dropLast? '+' c.key).getD c.key

/-- All paths of some arguments. -/
def Arguments.paths (a : Arguments) : List String :=
  a.exclude ++ a.extract ++ a.captures.map Capture.path

theorem Text.dropLast?_append (s : String) (c : Char) :
    dropLast? c (s ++ String.singleton c) = some s := by
  simp [dropLast?]

namespace Projection
variable {u v : Value} {paths extract exclude : List String} {captures : List Capture}

section WellFormed

theorem prune_wellFormed (h : prune v paths = .ok u) : ∀ path ∈ paths, WellFormed path := by
  induction paths generalizing v with
  | nil => exact nofun
  | cons path rest ih =>
    obtain ⟨p, hp, hrest⟩ := exists_of_bind_eq_ok h
    exact List.forall_mem_cons.2 ⟨⟨p, hp⟩, ih hrest⟩

theorem selectAll_wellFormed {found : List Value} (h : selectAll v paths = .ok found) :
    ∀ path ∈ paths, WellFormed path := by
  induction paths generalizing found with
  | nil => exact nofun
  | cons path rest ih =>
    obtain ⟨p, hp, h⟩ := exists_of_bind_eq_ok h
    obtain ⟨others, hrest, -⟩ := exists_of_bind_eq_ok h
    exact List.forall_mem_cons.2 ⟨⟨p, hp⟩, ih hrest⟩

theorem captureAll_wellFormed {kept : List (String × List Value)}
    (h : captureAll v captures = .ok kept) : ∀ c ∈ captures, WellFormed c.path := by
  induction captures generalizing kept with
  | nil => exact nofun
  | cons c rest ih =>
    obtain ⟨p, hp, h⟩ := exists_of_bind_eq_ok h
    obtain ⟨others, hrest, -⟩ := exists_of_bind_eq_ok h
    exact List.forall_mem_cons.2 ⟨⟨p, hp⟩, ih hrest⟩

/-- No path of a projection that can be made is malformed. -/
theorem of_wellFormed {p : Projection} (h : Projection.of v extract exclude captures = .ok p) :
    ∀ path ∈ exclude ++ extract ++ captures.map Capture.path, WellFormed path := by
  obtain ⟨u, hu, h⟩ := exists_of_bind_eq_ok h
  have hall : (∀ path ∈ extract, WellFormed path) ∧ ∀ c ∈ captures, WellFormed c.path := by
    dsimp only at h
    split at h
    · rename_i hnone
      obtain ⟨found, -, h⟩ := exists_of_bind_eq_ok h
      obtain ⟨kept, hkept, -⟩ := exists_of_bind_eq_ok h
      exact ⟨hnone ▸ nofun, captureAll_wellFormed hkept⟩
    · obtain ⟨found, hfound, h⟩ := exists_of_bind_eq_ok h
      obtain ⟨kept, hkept, -⟩ := exists_of_bind_eq_ok h
      exact ⟨selectAll_wellFormed hfound, captureAll_wellFormed hkept⟩
  intro path hpath
  rw [List.mem_append, List.mem_append, List.mem_map] at hpath
  rcases hpath with (hpath | hpath) | ⟨c, hc, rfl⟩
  · exact prune_wellFormed hu path hpath
  · exact hall.1 path hpath
  · exact hall.2 c hc

theorem selectAll_eq (hv : v.Distinct) (h : ∀ path ∈ paths, WellFormed path) :
    selectAll v paths = .ok (paths.flatMap fun path => valuesAt (parsed path) v.nodes) := by
  induction paths with
  | nil => rfl
  | cons path rest ih =>
    obtain ⟨hpath, hrest⟩ := List.forall_mem_cons.1 h
    rw [selectAll, segments_eq_parsed hpath, ih hrest, List.flatMap_cons,
      ← select_eq_valuesAt hv]
    rfl

theorem captureAll_eq (hv : v.Distinct) (h : ∀ c ∈ captures, WellFormed c.path) :
    captureAll v captures =
      .ok (captures.map fun c => (c.key, valuesAt (parsed c.path) v.nodes)) := by
  induction captures with
  | nil => rfl
  | cons c rest ih =>
    obtain ⟨hc, hrest⟩ := List.forall_mem_cons.1 h
    rw [captureAll, segments_eq_parsed hc, ih hrest, List.map_cons, ← select_eq_valuesAt hv]
    rfl

/-- What is picked along well-formed paths of a pruned value. -/
theorem of_eq (hu : prune v exclude = .ok u) (hd : u.Distinct)
    (hx : ∀ path ∈ extract, WellFormed path) (hc : ∀ c ∈ captures, WellFormed c.path) :
    Projection.of v extract exclude captures = .ok
      ⟨if extract = [] then [u] else extract.flatMap fun path => valuesAt (parsed path) u.nodes,
        captures.map fun c => (c.key, valuesAt (parsed c.path) u.nodes)⟩ := by
  have hkept := captureAll_eq hd hc
  have hfound := selectAll_eq hd hx
  by_cases hnone : extract = []
  · simp only [Projection.of, hu, hnone, hkept, bind, Except.bind, pure, Except.pure, if_true]
  · simp only [Projection.of, hu, hnone, hfound, hkept, bind, Except.bind, pure, Except.pure,
      if_false]

end WellFormed

end Projection

namespace Session
variable {s s' : Session} {v u : Value} {a : Arguments}

section Keeping

/-- What a capture takes of a pruned value: what it selects, and nothing if it selects nothing. -/
def taken (u : Value) (c : Capture) : Option Value :=
  gathered (Projection.valuesAt (Projection.parsed c.path) u.nodes)

/-- What the last of some captures takes that takes anything. -/
def lastTaken (u : Value) (captures : List Capture) : Option Value :=
  (captures.filterMap (taken u)).getLast?

/-- A session keeps some captures of a pruned value in its stores, and all else as it was. -/
structure Keeps (s : Session) (u : Value) (captures : List Capture) (s' : Session) : Prop where
  data : ∀ n, s'.data.get? n =
    (lastTaken u (captures.filter fun c => c.name = n)).or (s.data.get? n)
  vars : ∀ n, s'.vars.get? n =
    (lastTaken u (captures.filter fun c => c.key = n ++ "+")).or (s.vars.get? n)
  rest : s' = { s with vars := s'.vars, data := s'.data }

theorem keep_data_get? (s : Session) (c : Capture) (values : List Value) (n : String) :
    (s.keep c.key values).data.get? n =
      (if c.name = n then gathered values else none).or (s.data.get? n) := by
  unfold keep Capture.name
  cases gathered values with
  | none => simp
  | some v =>
    cases Text.dropLast? '+' c.key <;> simp only [Option.getD, Assoc.get?_put] <;> split <;> rfl

theorem keep_vars_get? (s : Session) (c : Capture) (values : List Value) (n : String) :
    (s.keep c.key values).vars.get? n =
      (if c.key = n ++ "+" then gathered values else none).or (s.vars.get? n) := by
  have hkey : c.key = n ++ "+" ↔ Text.dropLast? '+' c.key = some n :=
    ⟨fun h => h ▸ Text.dropLast?_append n '+', Text.dropLast?_eq_some⟩
  simp only [hkey]
  unfold keep
  cases gathered values with
  | none => simp
  | some v =>
    cases Text.dropLast? '+' c.key with
    | none => rfl
    | some name =>
      simp only [Assoc.get?_put, Option.some.injEq]
      split <;> rfl

/-- Each step that takes something replaces what was there, and the last one stays. -/
theorem foldl_last {σ α β : Type} {f : σ → Option β} {step : σ → α → σ} {taken : α → Option β}
    (h : ∀ s x, f (step s x) = (taken x).or (f s)) (s : σ) (xs : List α) :
    f (xs.foldl step s) = (xs.filterMap taken).getLast?.or (f s) := by
  induction xs generalizing s with
  | nil => rfl
  | cons x rest ih =>
    rw [List.foldl_cons, ih, h, List.filterMap_cons]
    cases taken x with
    | none => rfl
    | some b => cases hrest : (rest.filterMap taken).getLast? <;> simp [List.getLast?_cons, hrest]

theorem keepAll_keeps (s : Session) (u : Value) (captures : List Capture) :
    s.Keeps u captures (s.keepAll (captures.map fun c =>
      (c.key, Projection.valuesAt (Projection.parsed c.path) u.nodes))) where
  data n := by
    rw [keepAll, List.foldl_map, lastTaken, List.filterMap_filter]
    refine foldl_last (f := fun t : Session => t.data.get? n) (fun t c => ?_) s captures
    rw [keep_data_get?]
    simp [taken]
  vars n := by
    rw [keepAll, List.foldl_map, lastTaken, List.filterMap_filter]
    refine foldl_last (f := fun t : Session => t.vars.get? n) (fun t c => ?_) s captures
    rw [keep_vars_get?]
    simp [taken]
  rest := by
    obtain ⟨vars, data, he⟩ := keepAll_stored s (captures.map fun c =>
      (c.key, Projection.valuesAt (Projection.parsed c.path) u.nodes))
    rw [he]

end Keeping

section Projecting

/-- A JSON response is there, and its value is shown. -/
def BringsJson (outcome : Except ClientError Response) (v : Value) : Prop :=
  ∃ r, responseOf outcome = some r ∧ r.isJson = true ∧ bodyShown r.content = v

theorem keepAll_withStatus (s : Session) (status : Nat) (kept : List (String × List Value)) :
    (s.withStatus status).keepAll kept = (s.keepAll kept).withStatus status := by
  induction kept generalizing s with
  | nil => rfl
  | cons c rest ih =>
    have hkeep : (s.withStatus status).keep c.1 c.2 = (s.keep c.1 c.2).withStatus status := by
      unfold keep
      split <;> rfl
    have hcons (t : Session) : t.keepAll (c :: rest) = (t.keep c.1 c.2).keepAll rest := rfl
    rw [hcons, hcons, hkeep, ih]

theorem project_nothing (s : Session) (v : Value) (h : wantsPart a = false) :
    s.project v a = .ok (v, s) := by
  simp only [wantsPart, Bool.or_eq_false_iff, Bool.not_eq_false', List.isEmpty_iff] at h
  obtain ⟨⟨hextract, hexclude⟩, hcaptures⟩ := h
  rw [project, hextract, hexclude, hcaptures]
  rfl

theorem settle_stores (s : Session) (a : Arguments) (summarize : Bool)
    (outcome : Except ClientError Response) (v : Value) :
    (s.settle a summarize outcome v).1.vars = s.vars ∧
      (s.settle a summarize outcome v).1.data = s.data := by
  obtain ⟨files, hf⟩ := settle_files s a summarize outcome v
  rw [hf]
  exact ⟨rfl, rfl⟩

/-- What comes back is in the stores as its projection has it, or not at all. -/
theorem conclude_stores (summarize : Bool) {outcome : Except ClientError Response}
    (h : BringsJson outcome v) :
    (∀ fault, s.project v a = .error fault →
      (s.conclude a summarize outcome).1.vars = s.vars ∧
      (s.conclude a summarize outcome).1.data = s.data) ∧
    ∀ picked s', s.project v a = .ok (picked, s') →
      (s.conclude a summarize outcome).1.vars = s'.vars ∧
      (s.conclude a summarize outcome).1.data = s'.data := by
  obtain ⟨r, hr, hjson, rfl⟩ := h
  cases answer a outcome with
  | none hnone =>
    rw [hr] at hnone
    cases hnone
  | whole hr' hw =>
    obtain rfl := Option.some.inj (hr.symm.trans hr')
    have hpart : wantsPart a = false := by simpa [hjson] using hw
    rw [project_nothing s _ hpart, conclude_of_whole hr hw]
    refine ⟨fun _ h => (by cases h), fun picked s' h => ?_⟩
    obtain rfl : s = s' := (Prod.ext_iff.1 (Except.ok.inj h)).2
    exact settle_stores (s.received outcome) a summarize outcome _
  | @part _ p hr' hw hp =>
    obtain rfl := Option.some.inj (hr.symm.trans hr')
    rw [project_of_ok hp s, conclude_of_part hr hw hp, received, keepAll_withStatus]
    refine ⟨fun _ h => (by cases h), fun picked s' h => ?_⟩
    obtain rfl : s.keepAll p.captured = s' := (Prod.ext_iff.1 (Except.ok.inj h)).2
    exact settle_stores ((s.keepAll p.captured).withStatus _) a summarize outcome p.picked
  | fault hr' hw hp =>
    obtain rfl := Option.some.inj (hr.symm.trans hr')
    rw [project_of_error hp s, conclude_of_fault hr hw hp]
    exact ⟨fun _ _ => ⟨rfl, rfl⟩, fun _ _ h => by cases h⟩

/-- All or nothing, and the last one stays. With a malformed path among the paths of the arguments
no projection is made and the stores are left. Without, each name holds what the last of its
captures takes that takes anything, as a variable the last marked one, and what a capture selects is
what an extract path selects. -/
theorem project_captures (s : Session) (hv : v.Distinct) (a : Arguments) :
    ((∃ path ∈ a.paths, ¬ Projection.WellFormed path) →
      (∃ fault, s.project v a = .error fault) ∧
      ∀ summarize outcome, BringsJson outcome v →
        (s.conclude a summarize outcome).1.vars = s.vars ∧
        (s.conclude a summarize outcome).1.data = s.data) ∧
    ((∀ path ∈ a.paths, Projection.WellFormed path) → ∃ u picked s',
      Projection.prune v a.exclude = .ok u ∧ s.project v a = .ok (picked, s') ∧
      s.Keeps u a.captures s' ∧
      (∀ c ∈ a.captures, Projection.of v [c.path] a.exclude [] =
        .ok ⟨Projection.valuesAt (Projection.parsed c.path) u.nodes, []⟩) ∧
      ∀ summarize outcome, BringsJson outcome v →
        (s.conclude a summarize outcome).1.vars = s'.vars ∧
        (s.conclude a summarize outcome).1.data = s'.data) := by
  constructor
  · rintro ⟨path, hmem, hpath⟩
    cases hp : Projection.of v a.extract a.exclude a.captures with
    | ok p => exact absurd (Projection.of_wellFormed hp path hmem) hpath
    | error fault =>
      have hproject := project_of_error hp s
      exact ⟨⟨fault, hproject⟩, fun summarize outcome h =>
        (conclude_stores summarize h).1 fault hproject⟩
  · intro h
    have hexclude : ∀ path ∈ a.exclude, Projection.WellFormed path := fun path hpath =>
      h path (List.mem_append_left _ (List.mem_append_left _ hpath))
    have hextract : ∀ path ∈ a.extract, Projection.WellFormed path := fun path hpath =>
      h path (List.mem_append_left _ (List.mem_append_right _ hpath))
    have hcaptures : ∀ c ∈ a.captures, Projection.WellFormed c.path := fun c hc =>
      h c.path (List.mem_append_right _ (List.mem_map_of_mem hc))
    have hu := Projection.prune_eq_without hexclude hv
    have hd := hv.without (Projection.excluded (a.exclude.map Projection.parsed))
    have hproject := project_of_ok (Projection.of_eq hu hd hextract hcaptures) s
    refine ⟨_, _, _, hu, hproject, keepAll_keeps s _ a.captures, fun c hc => ?_,
      fun summarize outcome hjson => (conclude_stores summarize hjson).2 _ _ hproject⟩
    have hone : ∀ path ∈ [c.path], Projection.WellFormed path :=
      List.forall_mem_singleton.2 (hcaptures c hc)
    rw [Projection.of_eq hu hd hone (List.forall_mem_nil _), if_neg (List.cons_ne_nil _ _),
      List.flatMap_singleton]
    rfl

/-- The variable is what the marked capture takes; the name in the other store is what the one
behind it takes, and the last one finds nothing that is not excluded. -/
theorem project_captures_marked :
    let v : Value := .object [("items", .array [.object [("id", .string "a")],
      .object [("id", .string "b")]]), ("total", .string "2")]
    let a : Arguments :=
      { exclude := ["total"]
        captures := [⟨"id+", "items.0.id"⟩, ⟨"id", "items.*.id"⟩, ⟨"id", "total"⟩] }
    (v.Distinct ∧ ∀ path ∈ a.paths, Projection.WellFormed path) ∧
      ∃ picked s', fresh.project v a = .ok (picked, s') ∧
        s'.data.get? "id" = some (.array [.string "a", .string "b"]) ∧
        s'.vars.get? "id" = some (.string "a") := by
  intro v a
  have hv : v.Distinct := by
    refine .object (by unfold Assoc.Distinct; decide) fun e he => ?_
    simp only [List.mem_cons, List.not_mem_nil, or_false] at he
    rcases he with rfl | rfl
    · refine .array fun w hw => ?_
      simp only [List.mem_cons, List.not_mem_nil, or_false] at hw
      rcases hw with rfl | rfl <;> exact Value.distinct_singleton (.string _) "id"
    · exact .string "2"
  have hpaths : ∀ path ∈ a.paths, Projection.WellFormed path := by
    have hp : Projection.of v a.extract a.exclude a.captures =
        .ok ⟨[.object [("items", .array [.object [("id", .string "a")],
          .object [("id", .string "b")]])]], [("id+", [.string "a"]),
          ("id", [.string "a", .string "b"]), ("id", [])]⟩ := by decide +kernel
    exact Projection.of_wellFormed hp
  obtain ⟨u, picked, s', hu, hproject, hkeeps, -⟩ := (project_captures fresh hv a).2 hpaths
  have hpruned : Projection.prune v a.exclude = .ok (.object [("items",
      .array [.object [("id", .string "a")], .object [("id", .string "b")]])]) := by decide +kernel
  obtain rfl := Except.ok.inj (hu.symm.trans hpruned)
  refine ⟨⟨hv, hpaths⟩, picked, s', hproject, ?_, ?_⟩
  · rw [hkeeps.data]
    decide +kernel
  · rw [hkeeps.vars]
    decide +kernel

end Projecting

end Session
end RestShell
