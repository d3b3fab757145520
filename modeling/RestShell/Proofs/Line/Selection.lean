import Mathlib.Data.List.Forall2
import RestShell.Proofs.Json.Nodes
import RestShell.Proofs.Line.Paths

/-! Selecting along a path. A path finds the nodes whose positions its segments name step by step,
each of them once and in document order, so that a path with more segments behind it finds what
these find in the nodes of the first. -/

namespace RestShell.Projection

open Json

variable {v : Value} {path : List String} {p : Position}

/-- These are the nodes of a value that a path finds, as deep as it has segments, each node once
and all in document order. -/
structure Finds (path : List String) (v : Value) (ns : List (Position × Value)) : Prop where
  mem_iff : ∀ p w, (p, w) ∈ ns ↔
    v.NodeAt p w ∧ List.Forall₂ (fun s e => Edge.answers s e = true) path p
  once : (ns.map Prod.fst).Nodup
  ordered : (ns.map Prod.fst).Pairwise v.Before

theorem leads_iff_forall₂ :
    leads path p = true ↔ List.Forall₂ (fun s e => Edge.answers s e = true) path p := by
  induction path generalizing p with
  | nil => cases p <;> simp [leads]
  | cons s path ih =>
    cases p with
    | nil => simp [leads]
    | cons e p => rw [leads_cons, Bool.and_eq_true, ih, List.forall₂_cons]

/-- The nodes that a path leads to. -/
def nodesAt (path : List String) (v : Value) : List (Position × Value) :=
  v.nodes.filter fun n => leads path n.1

theorem finds_nodesAt (h : v.Distinct) (path : List String) : Finds path v (nodesAt path v) := by
  have hordered : ((nodesAt path v).map Prod.fst).Pairwise v.Before :=
    List.pairwise_map.2 (v.pairwise_nodes.filter _)
  refine ⟨fun p w => ?_, ?_, hordered⟩
  · rw [nodesAt, List.mem_filter, Value.mem_nodes_iff, leads_iff_forall₂]
  · refine hordered.imp fun {p q} hpq => ?_
    rintro rfl
    exact h.before_asymm hpq hpq

/-- A value has just one list of the nodes that a path finds. -/
theorem Finds.unique {ms ns : List (Position × Value)} (h : v.Distinct) (hm : Finds path v ms)
    (hn : Finds path v ns) : ms = ns := by
  have hperm : ms.Perm ns := by
    refine (List.perm_ext_iff_of_nodup hm.once.of_map hn.once.of_map).2 fun n => ?_
    rw [hm.mem_iff, hn.mem_iff]
  have hasymm : ∀ m n, m ∈ ms → n ∈ ns → v.Before m.1 n.1 → v.Before n.1 m.1 → m = n :=
    fun m n _ _ hmn hnm => absurd hnm (h.before_asymm hmn)
  exact hperm.eq_of_pairwise hasymm
    (List.pairwise_map.1 hm.ordered) (List.pairwise_map.1 hn.ordered)

theorem select_append (path rest : List String) (v : Value) :
    select (path ++ rest) v = (select path v).flatMap (select rest) := by
  induction path generalizing v with
  | nil => simp [select]
  | cons s path ih =>
    have hbelow : select (path ++ rest) = fun c => (select path c).flatMap (select rest) :=
      funext ih
    rw [List.cons_append, select, select]
    split
    · rw [hbelow, List.flatMap_assoc]
    · cases child? v s with
      | none => rfl
      | some c => exact ih c

/-- Selecting along a path gives the nodes at the positions whose steps its segments name one by
one, each once and in document order. Along two paths, one behind the other, it gives what the
second selects from each node that the first selects. -/
theorem select_exact (h : v.Distinct) (path : List String) :
    (∃ ns, (∀ ms, Finds path v ms ↔ ms = ns) ∧ select path v = ns.map Prod.snd) ∧
      ∀ rest, select (path ++ rest) v = (select path v).flatMap (select rest) := by
  have hfinds := finds_nodesAt h path
  refine ⟨⟨nodesAt path v, fun ms => ⟨fun hm => hm.unique h hfinds, ?_⟩, select_eq_valuesAt h path⟩,
    fun rest => select_append path rest v⟩
  rintro rfl
  exact hfinds

/-- Stars over a mapping and a list of mixed nodes, some of which the last segment misses. -/
theorem select_exact_mixed :
    let v : Value := .object [("items", .array [.object [("n", .null), ("1", .bool true)],
      .array [.null], .bool false, .array [.null, .string "x"]]), ("1", .object [("1", .null)])]
    v.Distinct ∧
      (∃ ns, (∀ ms, Finds ["*", "*", "1"] v ms ↔ ms = ns) ∧
        [.bool true, .string "x"] = ns.map Prod.snd) ∧
      select ["*", "*", "1"] v = (select ["*"] v).flatMap (select ["*", "1"]) := by
  intro v
  have hv : v.Distinct := by
    refine .object (by unfold Assoc.Distinct; decide) ?_
    simp only [List.forall_mem_cons]
    refine ⟨.array ?_, Value.distinct_singleton .null "1", nofun⟩
    simp only [List.forall_mem_cons]
    refine ⟨.object (by unfold Assoc.Distinct; decide) ?_, .array ?_, .bool _, .array ?_, nofun⟩
    · simp only [List.forall_mem_cons]
      exact ⟨.null, .bool _, nofun⟩
    · exact List.forall_mem_singleton.2 .null
    · simp only [List.forall_mem_cons]
      exact ⟨.null, .string _, nofun⟩
  have hfound : select ["*", "*", "1"] v = [.bool true, .string "x"] := by decide +kernel
  exact ⟨hv, hfound ▸ (select_exact hv ["*", "*", "1"]).1, (select_exact hv ["*"]).2 _⟩

end RestShell.Projection
