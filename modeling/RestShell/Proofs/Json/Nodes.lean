import Mathlib.Data.List.Nodup
import Mathlib.Data.List.Pairwise
import RestShell.Proofs.Json.Positions

/-! The nodes of a JSON value and the order in which they stand. A value has branches, each with the
step that leads to it; a position leads down the branches to a node, and of two nodes one stands
before the other when it is above it or on an earlier branch. The list of nodes holds each of them
once and in this order. -/

namespace RestShell.Json.Value

/-- The children of a value with the steps that lead to them, in document order. -/
def branches : Value → List (Edge × Value)
  | .array items => items.zipIdx.map fun c => (.index c.2, c.1)
  | .object fields => fields.map fun e => (.key e.1, e.2)
  | _ => []

/-- A position leads from a value to a node of it. -/
inductive NodeAt : Value → Position → Value → Prop where
  | root (v : Value) : NodeAt v [] v
  | step {v c w : Value} {e : Edge} {p : Position} : (e, c) ∈ v.branches → NodeAt c p w →
      NodeAt v (e :: p) w

/-- Document order of the positions in a value: a node stands before those below it, and before
those on a later branch along with all below them. -/
inductive Before : Value → Position → Position → Prop where
  | above (v : Value) (e : Edge) (p : Position) : Before v [] (e :: p)
  | beside {v : Value} {e d : Edge} (p q : Position) :
      List.Sublist [e, d] (v.branches.map Prod.fst) → Before v (e :: p) (d :: q)
  | inside {v c : Value} {e : Edge} {p q : Position} : (e, c) ∈ v.branches → Before c p q →
      Before v (e :: p) (e :: q)

variable {v c w : Value} {e : Edge} {p : Position}

theorem mem_branches_array {items : List Value} (h : (e, c) ∈ (array items).branches) :
    c ∈ items := by
  obtain ⟨x, hx, heq⟩ := List.mem_map.1 h
  cases heq
  exact List.fst_mem_of_mem_zipIdx hx

theorem mem_branches_object {fields : List (String × Value)}
    (h : (e, c) ∈ (object fields).branches) : ∃ k, (k, c) ∈ fields := by
  obtain ⟨x, hx, heq⟩ := List.mem_map.1 h
  cases heq
  exact ⟨x.1, hx⟩

/-- What holds of a value whenever it holds of its children holds of all values. -/
theorem branch_induction {P : Value → Prop}
    (step : ∀ v : Value, (∀ e c, (e, c) ∈ v.branches → P c) → P v) (v : Value) : P v := by
  induction v using Value.induction with
  | null | bool | number | string => exact step _ nofun
  | array items ih => exact step _ fun e c h => ih c (mem_branches_array h)
  | object fields ih =>
    refine step _ fun e c h => ?_
    obtain ⟨k, hk⟩ := mem_branches_object h
    exact ih (k, c) hk

theorem Distinct.branch (h : v.Distinct) (hc : (e, c) ∈ v.branches) : c.Distinct := by
  cases h with
  | null | bool | number | string => cases hc
  | array hitems => exact hitems c (mem_branches_array hc)
  | object hkeys hfields =>
    obtain ⟨k, hk⟩ := mem_branches_object hc
    exact hfields (k, c) hk

/-- No step leads to two children. -/
theorem Distinct.steps_nodup (h : v.Distinct) : (v.branches.map Prod.fst).Nodup := by
  cases h with
  | null | bool | number | string => exact List.nodup_nil
  | @array items _ =>
    have hsteps : (Value.array items).branches.map Prod.fst =
        (List.range items.length).map Edge.index := by
      rw [branches, List.map_map, List.range_eq_range', ← List.zipIdx_map_snd 0 items, List.map_map]
      rfl
    rw [hsteps]
    exact List.nodup_range.map fun _ _ h => Edge.index.inj h
  | @object fields hkeys _ =>
    have hsteps :
        (Value.object fields).branches.map Prod.fst = (Assoc.keys fields).map Edge.key := by
      rw [branches, Assoc.keys, List.map_map, List.map_map]
      rfl
    rw [hsteps]
    exact List.Nodup.map (fun _ _ h => Edge.key.inj h) hkeys

theorem Distinct.branch_unique (h : v.Distinct) {d : Value} (hc : (e, c) ∈ v.branches)
    (hd : (e, d) ∈ v.branches) : c = d :=
  congrArg Prod.snd (List.inj_on_of_nodup_map h.steps_nodup hc hd rfl)

theorem not_sublist_swap {l : List Edge} {d : Edge} (h : l.Nodup) (hed : List.Sublist [e, d] l) :
    ¬ List.Sublist [d, e] l := by
  induction l with
  | nil => nofun
  | cons x l ih =>
    obtain ⟨hx, hl⟩ := List.nodup_cons.1 h
    intro hde
    cases hed with
    | cons _ hed =>
      cases hde with
      | cons _ hde => exact ih hl hed hde
      | cons_cons _ _ => exact hx (hed.subset (by simp))
    | cons_cons _ hed =>
      cases hde with
      | cons _ hde => exact hx (hde.subset (by simp))
      | cons_cons _ _ => exact hx (hed.subset (by simp))

/-- Of two nodes not each stands before the other; in particular none stands before itself. -/
theorem Distinct.before_asymm (h : v.Distinct) {q : Position} (hpq : v.Before p q) :
    ¬ v.Before q p := by
  induction hpq with
  | above => nofun
  | beside p q hsub =>
    intro hqp
    cases hqp with
    | beside _ _ hback => exact not_sublist_swap h.steps_nodup hsub hback
    | inside _ _ => exact not_sublist_swap h.steps_nodup hsub hsub
  | inside hc _ ih =>
    intro hqp
    cases hqp with
    | beside _ _ hback => exact not_sublist_swap h.steps_nodup hback hback
    | inside hd hrest =>
      obtain rfl := h.branch_unique hc hd
      exact ih (h.branch hc) hrest

section Nodes

theorem itemNodes_eq (i : Nat) (items : List Value) :
    itemNodes i items = (items.zipIdx i).flatMap fun c => c.1.nodes.map (under (.index c.2)) := by
  induction items generalizing i with
  | nil => rfl
  | cons v rest ih => rw [itemNodes, ih, List.zipIdx_cons, List.flatMap_cons]

theorem fieldNodes_eq (fields : List (String × Value)) :
    fieldNodes fields = fields.flatMap fun e => e.2.nodes.map (under (.key e.1)) := by
  induction fields with
  | nil => rfl
  | cons e rest ih => rw [fieldNodes, ih, List.flatMap_cons]

/-- The nodes of a value are the value and, branch by branch, the nodes of its children. -/
theorem nodes_eq (v : Value) :
    v.nodes = ([], v) :: v.branches.flatMap fun c => c.2.nodes.map (under c.1) := by
  cases v with
  | null | bool | number | string => rfl
  | array items => rw [nodes, itemNodes_eq, branches, List.flatMap_map]
  | object fields => rw [nodes, fieldNodes_eq, branches, List.flatMap_map]

/-- The list of nodes holds what the positions lead to and nothing else. -/
theorem mem_nodes_iff : (p, w) ∈ v.nodes ↔ v.NodeAt p w := by
  induction v using branch_induction generalizing p w with
  | step v ih =>
    rw [nodes_eq, List.mem_cons, List.mem_flatMap]
    constructor
    · rintro (heq | ⟨⟨e, c⟩, hc, hn⟩)
      · cases heq
        exact .root v
      · obtain ⟨⟨q, u⟩, hq, heq⟩ := List.mem_map.1 hn
        cases heq
        exact .step hc ((ih e c hc).1 hq)
    · intro hnode
      cases hnode with
      | root => exact .inl rfl
      | @step _ c _ e q hc hrest =>
        exact .inr ⟨(e, c), hc, List.mem_map.2 ⟨(q, w), (ih e c hc).2 hrest, rfl⟩⟩

theorem exists_position_of_mem {c : Edge × Value} {n : Position × Value}
    (h : n ∈ c.2.nodes.map (under c.1)) : ∃ q, n.1 = c.1 :: q := by
  obtain ⟨m, -, rfl⟩ := List.mem_map.1 h
  exact ⟨m.1, rfl⟩

/-- The nodes are listed in document order. -/
theorem pairwise_nodes (v : Value) : v.nodes.Pairwise fun m n => v.Before m.1 n.1 := by
  induction v using branch_induction with
  | step v ih =>
    rw [nodes_eq, List.pairwise_cons, List.pairwise_flatMap]
    refine ⟨fun n hn => ?_, fun c hc => ?_, ?_⟩
    · obtain ⟨c, -, hn⟩ := List.mem_flatMap.1 hn
      obtain ⟨q, hq⟩ := exists_position_of_mem hn
      rw [hq]
      exact .above v c.1 q
    · exact (ih c.1 c.2 hc).map (under c.1) fun m n hmn => .inside hc hmn
    · refine List.pairwise_iff_forall_sublist.2 fun {a b} hab m hm n hn => ?_
      obtain ⟨p, hp⟩ := exists_position_of_mem hm
      obtain ⟨q, hq⟩ := exists_position_of_mem hn
      rw [hp, hq]
      exact .beside p q (hab.map Prod.fst)

end Nodes

end RestShell.Json.Value
