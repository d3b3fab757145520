import RestShell.Line.Projection
import RestShell.Proofs.Assoc
import RestShell.Proofs.Json.Positions

/-! Paths and the positions they lead to. A path leads to the positions of its own length whose
steps its segments name one by one. Selecting along a path finds the nodes at these positions, in
document order, and removing takes away just these. -/

namespace RestShell

open Json

/-- A segment names a step: the key itself, the index that it spells, or any with a star. -/
def Json.Edge.answers (segment : String) : Edge → Bool
  | .key k => segment = "*" || segment = k
  | .index i => segment = "*" || Text.index? segment = some i

namespace Projection
variable {s : String} {path : List String} {G : Position → Bool} {p : Position}

def WellFormed (path : String) : Prop := ∃ p, segments path = .ok p

/-- The segments of a well-formed path. -/
def parsed (path : String) : List String :=
  match segments path with
  | .ok p => p
  | .error _ => []

theorem segments_eq_parsed {path : String} (h : WellFormed path) :
    segments path = .ok (parsed path) := by
  obtain ⟨p, hp⟩ := h
  rw [parsed, hp]

/-- A path leads to a position. -/
def leads : List String → Position → Bool
  | [], [] => true
  | s :: path, e :: p => e.answers s && leads path p
  | _, _ => false

theorem answers_star (e : Edge) : e.answers "*" = true := by
  cases e <;> rfl

theorem leads_cons (s : String) (path : List String) (e : Edge) (p : Position) :
    leads (s :: path) (e :: p) = (e.answers s && leads path p) := rfl

theorem leads_nil_of_ne (h : p ≠ []) : leads [] p = false := by
  cases p with
  | nil => exact absurd rfl h
  | cons e p => rfl

theorem leads_cons_nil (s : String) (path : List String) : leads (s :: path) [] = false := rfl

theorem length_of_leads (h : leads path p = true) : p.length = path.length := by
  induction path generalizing p with
  | nil =>
    cases p with
    | nil => rfl
    | cons e p => cases h
  | cons s path ih =>
    cases p with
    | nil => cases h
    | cons e p =>
      rw [leads_cons, Bool.and_eq_true] at h
      rw [List.length_cons, List.length_cons, ih h.2]

/-- The segments of a path name the steps of a position one by one, the last the last. -/
theorem leads_concat (path : List String) (s : String) (p : Position) (e : Edge) :
    leads (path ++ [s]) (p ++ [e]) = (leads path p && e.answers s) := by
  induction path generalizing p with
  | nil =>
    cases p with
    | nil => simp [leads]
    | cons d p => cases p <;> simp [leads]
  | cons t path ih =>
    cases p with
    | nil => cases path <;> simp [leads]
    | cons d p => simp only [List.cons_append, leads_cons, ih, Bool.and_assoc]

theorem exists_of_leads_concat {e : Edge} (h : leads path (p ++ [e]) = true) :
    ∃ r s, path = r ++ [s] ∧ leads r p = true ∧ e.answers s = true := by
  have hne : path ≠ [] := by
    rintro rfl
    exact absurd (length_of_leads h) (by simp)
  obtain ⟨r, s, rfl⟩ : ∃ r s, path = r ++ [s] :=
    ⟨path.dropLast, path.getLast hne, (List.dropLast_append_getLast hne).symm⟩
  rw [leads_concat, Bool.and_eq_true] at h
  exact ⟨r, s, rfl, h⟩

section Removal
variable {items : List Value} {fields : List (String × Value)} {v : Value}

/-- All elements of a list are treated alike. -/
theorem itemsWithout_alike {b : Bool} {F : Position → Bool} (hb : ∀ i, G [.index i] = b)
    (hF : ∀ i, (fun q => G (.index i :: q)) = F) (n : Nat) :
    Value.itemsWithout G n items = if b then [] else items.map (·.without F) := by
  induction items generalizing n with
  | nil => cases b <;> rfl
  | cons v rest ih =>
    rw [Value.itemsWithout, hb, hF, ih]
    cases b <;> rfl

theorem fieldsWithout_alike {b : Bool} {F : Position → Bool} (hb : ∀ k, G [.key k] = b)
    (hF : ∀ k, (fun q => G (.key k :: q)) = F) :
    Value.fieldsWithout G fields = if b then [] else fields.map fun e => (e.1, e.2.without F) := by
  induction fields with
  | nil => cases b <;> rfl
  | cons e rest ih =>
    rw [Value.fieldsWithout, hb, hF, ih]
    cases b <;> rfl

/-- One element of a list is taken away or changed, and all others are left. -/
theorem itemsWithout_at {j : Nat} (h : ∀ i, i ≠ j → ∀ q, G (.index i :: q) = false) (n : Nat) :
    Value.itemsWithout G n items = if j < n then items
      else if G [.index j] then items.eraseIdx (j - n)
      else items.modify (j - n) (·.without fun q => G (.index j :: q)) := by
  induction items generalizing n with
  | nil => simp [Value.itemsWithout]
  | cons v rest ih =>
    rw [Value.itemsWithout, ih]
    by_cases hn : n = j
    · subst hn
      simp
    · have hself : v.without (fun q => G (.index n :: q)) = v :=
        Value.without_of_none (fun q _ => h n hn q) v
      rw [hself, h n hn []]
      by_cases hj : j < n
      · simp [hj, Nat.lt_succ_of_lt hj]
      · obtain ⟨m, rfl⟩ : ∃ m, j = n + 1 + m := ⟨j - (n + 1), by omega⟩
        have hm : n + 1 + m - n = m + 1 := by omega
        have hnot : ¬ n + 1 + m < n + 1 := by omega
        simp only [if_neg hj, hm, if_neg hnot, Nat.add_sub_cancel_left, Bool.false_eq_true, if_false]
        split <;> rfl

/-- One entry of a mapping is taken away or changed, and all others are left. -/
theorem fieldsWithout_at {k : String} (h : ∀ j, j ≠ k → ∀ q, G (.key j :: q) = false)
    (hd : Assoc.Distinct fields) :
    Value.fieldsWithout G fields = if G [.key k] then Assoc.erase k fields
      else adjust k (·.without fun q => G (.key k :: q)) fields := by
  induction fields with
  | nil => simp [Value.fieldsWithout, Assoc.erase, adjust]
  | cons e rest ih =>
    obtain ⟨hnot, hrest⟩ : e.1 ∉ Assoc.keys rest ∧ (Assoc.keys rest).Nodup := List.nodup_cons.1 hd
    by_cases hk : e.1 = k
    · have hothers : Value.fieldsWithout G rest = rest := by
        refine Value.fieldsWithout_of_none fun e' he' => ?_
        have hne : e'.1 ≠ k := by
          rintro rfl
          exact hnot (hk ▸ List.mem_map_of_mem he')
        exact ⟨h _ hne [], Value.without_of_none (fun q _ => h _ hne q) e'.2⟩
      rw [Value.fieldsWithout, hothers, hk]
      simp only [Assoc.erase, adjust, hk, if_true]
    · have hself : e.2.without (fun q => G (.key e.1 :: q)) = e.2 :=
        Value.without_of_none (fun q _ => h _ hk q) e.2
      rw [Value.fieldsWithout, hself, h _ hk [], ih hrest]
      simp only [Assoc.erase, adjust, hk, Bool.false_eq_true, if_false]
      split <;> rfl

theorem leads_index_of_ne {i j : Nat} (hs : s ≠ "*") (hj : Text.index? s = some j) (hi : i ≠ j)
    (path : List String) (q : Position) : leads (s :: path) (.index i :: q) = false := by
  have hne : ¬ j = i := fun h => hi h.symm
  simp [leads_cons, Edge.answers, hs, hj, hne]

theorem leads_key_of_ne {k : String} (hs : s ≠ "*") (hk : k ≠ s) (path : List String)
    (q : Position) : leads (s :: path) (.key k :: q) = false := by
  simp [leads_cons, Edge.answers, hs, Ne.symm hk]

theorem leads_star (path : List String) (e : Edge) (q : Position) :
    leads ("*" :: path) (e :: q) = leads path q := by
  rw [leads_cons, answers_star, Bool.true_and]

theorem modify_congr {f g : Value → Value} (h : ∀ v ∈ items, f v = g v) (j : Nat) :
    items.modify j f = items.modify j g := by
  refine List.ext_getElem? fun i => ?_
  rw [List.getElem?_modify, List.getElem?_modify]
  cases hi : items[i]? with
  | none => rfl
  | some v =>
    have hv : f v = g v := h v (List.mem_of_getElem? hi)
    by_cases hj : j = i <;> simp [hj, hv]

theorem adjust_congr {f g : Value → Value} (h : ∀ e ∈ fields, f e.2 = g e.2) (k : String) :
    adjust k f fields = adjust k g fields := by
  induction fields with
  | nil => rfl
  | cons e rest ih =>
    obtain ⟨he, hrest⟩ := List.forall_mem_cons.1 h
    rw [adjust, adjust, he, ih hrest]

/-- In a list the elements that the segment names are taken away, or changed as they are alone. -/
theorem remove_array (ih : ∀ v ∈ items, remove path v = v.without (leads path)) (s : String) :
    remove (s :: path) (.array items) = (Value.array items).without (leads (s :: path)) := by
  rw [Value.without]
  by_cases hs : s = "*"
  · subst hs
    rw [itemsWithout_alike (fun i => leads_star path (.index i) [])
      fun i => funext fun q => leads_star path (.index i) q]
    cases path with
    | nil => rfl
    | cons t path =>
      rw [remove, if_pos rfl, leads_cons_nil, if_neg (by decide)]
      exact congrArg Value.array (List.map_congr_left ih)
  · cases hi : Text.index? s with
    | none =>
      have hnone (i : Nat) (q : Position) : leads (s :: path) (.index i :: q) = false := by
        simp [leads_cons, Edge.answers, hs, hi]
      rw [Value.itemsWithout_of_none (fun i => hnone i [])
        fun i v _ => Value.without_of_none (fun q _ => hnone i q) v]
      cases path <;> simp [remove, hs, hi]
    | some j =>
      have hself (q : Position) : leads (s :: path) (.index j :: q) = leads path q := by
        simp [leads_cons, Edge.answers, hi]
      rw [itemsWithout_at fun i hij => leads_index_of_ne hs hi hij path, if_neg (by omega)]
      simp only [hself, Nat.sub_zero]
      cases path with
      | nil => simp [remove, hs, hi, leads]
      | cons t path =>
        simp only [remove, hs, hi, if_false, leads_cons_nil, Bool.false_eq_true]
        exact congrArg Value.array (modify_congr ih j)

/-- In a mapping the entries that the segment names are, which are one or all. -/
theorem remove_object (hkeys : Assoc.Distinct fields)
    (ih : ∀ e ∈ fields, remove path e.2 = e.2.without (leads path)) (s : String) :
    remove (s :: path) (.object fields) = (Value.object fields).without (leads (s :: path)) := by
  rw [Value.without]
  by_cases hs : s = "*"
  · subst hs
    rw [fieldsWithout_alike (fun k => leads_star path (.key k) [])
      fun k => funext fun q => leads_star path (.key k) q]
    cases path with
    | nil => rfl
    | cons t path =>
      rw [remove, if_pos rfl, leads_cons_nil, if_neg (by decide)]
      exact congrArg Value.object (List.map_congr_left fun e he => by rw [ih e he])
  · have hself (q : Position) : leads (s :: path) (.key s :: q) = leads path q := by
      simp [leads_cons, Edge.answers]
    rw [fieldsWithout_at (fun k hk => leads_key_of_ne hs hk path) hkeys]
    simp only [hself]
    cases path with
    | nil => simp [remove, hs, leads]
    | cons t path =>
      simp only [remove, hs, if_false, leads_cons_nil, Bool.false_eq_true]
      exact congrArg Value.object (adjust_congr ih s)

/-- Removing along a path takes away the nodes that the path leads to. -/
theorem remove_eq_without (h : v.Distinct) (path : List String) :
    remove path v = v.without (leads path) := by
  induction path generalizing v with
  | nil =>
    rw [Value.without_of_none (fun p hp => leads_nil_of_ne hp)]
    cases v <;> rfl
  | cons s path ih =>
    cases h with
    | null | bool | number | string => cases path <;> rfl
    | array hitems => exact remove_array (fun v hv => ih (hitems v hv)) s
    | object hkeys hfields => exact remove_object hkeys (fun e he => ih (hfields e he)) s

end Removal

section Selection
variable {items : List Value} {fields : List (String × Value)} {v : Value}

/-- The values at the positions that a path leads to, among some nodes. -/
def valuesAt (path : List String) (ns : List (Position × Value)) : List Value :=
  (ns.filter fun n => leads path n.1).map Prod.snd

theorem valuesAt_append (path : List String) (a b : List (Position × Value)) :
    valuesAt path (a ++ b) = valuesAt path a ++ valuesAt path b := by
  simp [valuesAt]

theorem valuesAt_under (s : String) (path : List String) (e : Edge) (ns : List (Position × Value)) :
    valuesAt (s :: path) (ns.map (Value.under e)) =
      if e.answers s then valuesAt path ns else [] := by
  have hleads : (fun n => leads (s :: path) n.1) ∘ Value.under e =
      fun n => e.answers s && leads path n.1 := rfl
  rw [valuesAt, List.filter_map, List.map_map, hleads]
  cases e.answers s with
  | true => rfl
  | false => simp

theorem valuesAt_nil_under (e : Edge) (ns : List (Position × Value)) :
    valuesAt [] (ns.map (Value.under e)) = [] := by
  have hleads : (fun n => leads [] n.1) ∘ Value.under e = fun _ => false := rfl
  rw [valuesAt, List.filter_map, hleads]
  simp

theorem valuesAt_nil_itemNodes (i : Nat) (items : List Value) :
    valuesAt [] (Value.itemNodes i items) = [] := by
  induction items generalizing i with
  | nil => rfl
  | cons v rest ih => rw [Value.itemNodes, valuesAt_append, valuesAt_nil_under, ih, List.nil_append]

theorem valuesAt_nil_fieldNodes (fields : List (String × Value)) :
    valuesAt [] (Value.fieldNodes fields) = [] := by
  induction fields with
  | nil => rfl
  | cons e rest ih => rw [Value.fieldNodes, valuesAt_append, valuesAt_nil_under, ih, List.nil_append]

theorem valuesAt_star_itemNodes (path : List String) (i : Nat) (items : List Value) :
    valuesAt ("*" :: path) (Value.itemNodes i items) =
      items.flatMap fun v => valuesAt path v.nodes := by
  induction items generalizing i with
  | nil => rfl
  | cons v rest ih =>
    rw [Value.itemNodes, valuesAt_append, valuesAt_under, answers_star, if_pos rfl, ih,
      List.flatMap_cons]

theorem valuesAt_star_fieldNodes (path : List String) (fields : List (String × Value)) :
    valuesAt ("*" :: path) (Value.fieldNodes fields) =
      fields.flatMap fun e => valuesAt path e.2.nodes := by
  induction fields with
  | nil => rfl
  | cons e rest ih =>
    rw [Value.fieldNodes, valuesAt_append, valuesAt_under, answers_star, if_pos rfl, ih,
      List.flatMap_cons]

/-- A segment that is no star names at most one element of a list. -/
theorem valuesAt_itemNodes (hs : s ≠ "*") (path : List String) (i : Nat) (items : List Value) :
    valuesAt (s :: path) (Value.itemNodes i items) =
      (((Text.index? s).filter (i ≤ ·)).bind fun j => items[j - i]?).elim []
        fun v => valuesAt path v.nodes := by
  induction items generalizing i with
  | nil => cases (Text.index? s).filter (i ≤ ·) <;> rfl
  | cons v rest ih =>
    have hanswers : (Edge.index i).answers s = decide (Text.index? s = some i) := by
      simp [Edge.answers, hs]
    rw [Value.itemNodes, valuesAt_append, valuesAt_under, hanswers, ih]
    cases hj : Text.index? s with
    | none => rfl
    | some j =>
      rcases Nat.lt_trichotomy j i with hlt | rfl | hgt
      · have hne : ¬ j = i := by omega
        have hle : ¬ i ≤ j := by omega
        have hle' : ¬ i + 1 ≤ j := by omega
        simp [Option.filter, hne, hle, hle']
      · have hle : ¬ j + 1 ≤ j := by omega
        simp [Option.filter, hle]
      · obtain ⟨m, rfl⟩ : ∃ m, j = i + 1 + m := ⟨j - (i + 1), by omega⟩
        have hne : ¬ i + 1 + m = i := by omega
        have hsub : i + 1 + m - i = m + 1 := by omega
        have hle : i ≤ i + 1 + m := by omega
        simp [Option.filter, hne, hsub, hle]

/-- A segment that is no star names at most one entry of a mapping. -/
theorem valuesAt_fieldNodes (hs : s ≠ "*") (path : List String) (hd : Assoc.Distinct fields) :
    valuesAt (s :: path) (Value.fieldNodes fields) =
      (Assoc.get? s fields).elim [] fun v => valuesAt path v.nodes := by
  induction fields with
  | nil => rfl
  | cons e rest ih =>
    obtain ⟨hnot, hrest⟩ : e.1 ∉ Assoc.keys rest ∧ (Assoc.keys rest).Nodup := List.nodup_cons.1 hd
    have hanswers : (Edge.key e.1).answers s = decide (s = e.1) := by
      simp [Edge.answers, hs]
    rw [Value.fieldNodes, valuesAt_append, valuesAt_under, hanswers, ih hrest, Assoc.get?]
    by_cases he : e.1 = s
    · have hnone : Assoc.get? s rest = none := by
        rw [← Option.not_isSome_iff_eq_none, Assoc.get?_isSome_iff, ← he]
        exact hnot
      simp [he, hnone]
    · simp [he, Ne.symm he]

/-- Along no path the value itself is selected, which is the first of its nodes. -/
theorem valuesAt_nil (v : Value) : valuesAt [] v.nodes = [v] := by
  have hroot (ns : List (Position × Value)) (hns : valuesAt [] ns = []) (w : Value) :
      valuesAt [] (([], w) :: ns) = [w] := by
    rw [← List.singleton_append, valuesAt_append, hns]
    rfl
  cases v with
  | array items => exact hroot _ (valuesAt_nil_itemNodes 0 items) _
  | object fields => exact hroot _ (valuesAt_nil_fieldNodes fields) _
  | _ => rfl

theorem select_array (ih : ∀ v ∈ items, select path v = valuesAt path v.nodes) (s : String) :
    select (s :: path) (.array items) = valuesAt (s :: path) (Value.array items).nodes := by
  have hbelow : valuesAt (s :: path) (Value.array items).nodes =
      valuesAt (s :: path) (Value.itemNodes 0 items) := rfl
  rw [hbelow, select]
  by_cases hs : s = "*"
  · subst hs
    rw [if_pos rfl, valuesAt_star_itemNodes]
    exact List.flatMap_congr ih
  · have hchild : child? (.array items) s =
        ((Text.index? s).filter (0 ≤ ·)).bind fun j => items[j - 0]? := by
      cases hj : Text.index? s <;> simp [child?, hj, Option.filter]
    rw [if_neg hs, valuesAt_itemNodes hs, ← hchild]
    cases hc : child? (.array items) s with
    | none => rfl
    | some c =>
      obtain ⟨j, -, hj⟩ := Option.bind_eq_some_iff.1 hc
      exact ih c (List.mem_of_getElem? hj)

theorem select_object (hkeys : Assoc.Distinct fields)
    (ih : ∀ e ∈ fields, select path e.2 = valuesAt path e.2.nodes) (s : String) :
    select (s :: path) (.object fields) = valuesAt (s :: path) (Value.object fields).nodes := by
  have hbelow : valuesAt (s :: path) (Value.object fields).nodes =
      valuesAt (s :: path) (Value.fieldNodes fields) := rfl
  rw [hbelow, select]
  by_cases hs : s = "*"
  · subst hs
    rw [if_pos rfl, valuesAt_star_fieldNodes]
    exact List.flatMap_map .. |>.trans (List.flatMap_congr ih)
  · have hchild : child? (.object fields) s = Assoc.get? s fields := rfl
    rw [if_neg hs, valuesAt_fieldNodes hs path hkeys, hchild]
    cases hc : Assoc.get? s fields with
    | none => rfl
    | some c => exact ih (s, c) (Assoc.mem_of_get? hc)

/-- Selecting along a path finds the nodes that it leads to, each once and in document order. -/
theorem select_eq_valuesAt (h : v.Distinct) (path : List String) :
    select path v = valuesAt path v.nodes := by
  induction path generalizing v with
  | nil => exact (valuesAt_nil v).symm
  | cons s path ih =>
    cases h with
    | null | bool | number | string =>
      rw [select]
      split <;> rfl
    | array hitems => exact select_array (fun v hv => ih (hitems v hv)) s
    | object hkeys hfields => exact select_object hkeys (fun e he => ih (hfields e he)) s

end Selection

end Projection
end RestShell
