import RestShell.Proofs.Json.Mappings
import RestShell.Proofs.Json.Positions
import RestShell.Proofs.Json.ReadBack

/-! Values that differ in the order of keys. Fields may be changed one by one, each for a reordered
one. A reordering loses no entry: no key occurs more often, no number changes, and nothing is nested
deeper than before. -/

namespace RestShell.Json.Value
variable {v w : Value}

/-- The keys of every mapping are in ascending order, at any depth. -/
inductive Ascending : Value → Prop where
  | null : Ascending .null
  | bool (b : Bool) : Ascending (.bool b)
  | number (n : Number) : Ascending (.number n)
  | string (s : String) : Ascending (.string s)
  | array {items : List Value} : (∀ v ∈ items, Ascending v) → Ascending (.array items)
  | object {fields : List (String × Value)} : (Assoc.keys fields).Pairwise (· < ·) →
      (∀ e ∈ fields, Ascending e.2) → Ascending (.object fields)

section Changes
variable {f : Value → Value}

theorem reordered_map_items (before : List Value) {items : List Value}
    (h : ∀ v ∈ items, Reordered v (f v)) :
    Reordered (.array (before ++ items)) (.array (before ++ items.map f)) := by
  induction items generalizing before with
  | nil => exact .refl _
  | cons v r ih =>
    obtain ⟨hv, hr⟩ := List.forall_mem_cons.1 h
    have hrest := ih (before ++ [f v]) hr
    simp only [List.append_assoc, List.singleton_append] at hrest
    exact (hv.item before r).trans hrest

theorem reordered_map_fields (before : Assoc Value) {fields : List (String × Value)}
    (h : ∀ e ∈ fields, Reordered e.2 (f e.2)) :
    Reordered (.object (before ++ fields))
      (.object (before ++ fields.map fun e => (e.1, f e.2))) := by
  induction fields generalizing before with
  | nil => exact .refl _
  | cons e r ih =>
    obtain ⟨he, hr⟩ := List.forall_mem_cons.1 h
    have hrest := ih (before ++ [(e.1, f e.2)]) hr
    simp only [List.append_assoc, List.singleton_append] at hrest
    exact (he.field before r e.1).trans hrest

end Changes

section Kept

theorem itemsDepth_append (a b : List Value) :
    itemsDepth (a ++ b) = max (itemsDepth a) (itemsDepth b) := by
  induction a with
  | nil => simp [itemsDepth]
  | cons v r ih => simp [itemsDepth, ih, Nat.max_assoc]

theorem fieldsDepth_append (a b : List (String × Value)) :
    fieldsDepth (a ++ b) = max (fieldsDepth a) (fieldsDepth b) := by
  induction a with
  | nil => simp [fieldsDepth]
  | cons e r ih => simp [fieldsDepth, ih, Nat.max_assoc]

theorem Reordered.depth_eq (h : Reordered v w) : w.depth = v.depth := by
  induction h with
  | refl v => rfl
  | trans _ _ ih₁ ih₂ => exact ih₂.trans ih₁
  | @swap d e before after _ =>
    simp only [depth, fieldsDepth_append, fieldsDepth]
    rw [Nat.max_left_comm d.2.depth]
  | field before after k _ ih => simp only [depth, fieldsDepth_append, fieldsDepth, ih]
  | item before after _ ih => simp only [depth, itemsDepth_append, itemsDepth, ih]

/-- In place of an entry that has what all have, another one may stand that has it. -/
theorem forall_mem_replace {α : Type} {P : α → Prop} {x y : α} {before after : List α}
    (h : ∀ z ∈ before ++ x :: after, P z) (hxy : P x → P y) :
    ∀ z ∈ before ++ y :: after, P z := by
  rw [List.forall_mem_append, List.forall_mem_cons] at h ⊢
  exact ⟨h.1, hxy h.2.1, h.2.2⟩

theorem Reordered.distinct (h : Reordered v w) : v.Distinct → w.Distinct := by
  induction h with
  | refl v => exact id
  | trans _ _ ih₁ ih₂ => exact ih₂ ∘ ih₁
  | @swap d e before after _ =>
    intro hv
    cases hv with
    | object hkeys hfields =>
      have hperm := (List.Perm.swap e d after).append_left before
      exact .object ((hperm.map Prod.fst).nodup hkeys) fun f hf => hfields f (hperm.mem_iff.2 hf)
  | @field v w before after k _ ih =>
    intro hv
    cases hv with
    | object hkeys hfields =>
      refine .object ?_ (forall_mem_replace hfields ih)
      simpa [Assoc.Distinct, Assoc.keys] using hkeys
  | item before after _ ih =>
    intro hv
    cases hv with
    | array hitems => exact .array (forall_mem_replace hitems ih)

theorem Reordered.legible (h : Reordered v w) : v.Legible → w.Legible := by
  induction h with
  | refl v => exact id
  | trans _ _ ih₁ ih₂ => exact ih₂ ∘ ih₁
  | @swap d e before after _ =>
    intro hv
    cases hv with
    | object hfields =>
      have hperm := (List.Perm.swap e d after).append_left before
      exact .object fun f hf => hfields f (hperm.mem_iff.2 hf)
  | @field v w before after k _ ih =>
    intro hv
    cases hv with
    | object hfields => exact .object (forall_mem_replace hfields ih)
  | item before after _ ih =>
    intro hv
    cases hv with
    | array hitems => exact .array (forall_mem_replace hitems ih)

end Kept

end RestShell.Json.Value
