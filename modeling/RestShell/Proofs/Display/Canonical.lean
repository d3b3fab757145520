import Mathlib.Data.List.Sort
import RestShell.Proofs.Display.ReadBack
import RestShell.Proofs.Json.Ordering

/-! The raw form. Fields are sorted by insertion, which puts two of different keys in either order;
so values that differ in the order of their keys are sorted alike. What is sorted is a reordering of
the value, and its text is read back as such. -/

namespace RestShell

open Json Json.Value

namespace Render

/-- Fields in the order of their keys. -/
def KeysLe (d e : String × Value) : Prop := d.1 ≤ e.1

instance : DecidableRel KeysLe := fun d e => inferInstanceAs (Decidable (d.1 ≤ e.1))

instance : Std.Total KeysLe := ⟨fun d e => String.le_total d.1 e.1⟩

instance : IsTrans (String × Value) KeysLe := ⟨fun _ _ _ => String.le_trans⟩

section Fields
variable {d e : String × Value}

theorem insertField_eq (e : String × Value) (fields : List (String × Value)) :
    insertField e fields = fields.orderedInsert KeysLe e := by
  induction fields with
  | nil => rfl
  | cons f r ih =>
    rw [insertField, List.orderedInsert_cons, ih]
    by_cases h : f.1 < e.1
    · have hle : ¬ KeysLe e f := String.not_le.2 h
      rw [if_pos h, if_neg hle]
    · have hle : KeysLe e f := String.not_lt.1 h
      rw [if_neg h, if_pos hle]

theorem sortFields_eq (fields : List (String × Value)) :
    sortFields fields = fields.insertionSort KeysLe := by
  induction fields with
  | nil => rfl
  | cons e r ih =>
    rw [List.insertionSort_cons, ← ih, ← insertField_eq]
    rfl

/-- Of two fields with different keys either may be inserted first. -/
theorem insertField_comm (h : d.1 ≠ e.1) (fields : List (String × Value)) :
    insertField d (insertField e fields) = insertField e (insertField d fields) := by
  induction fields with
  | nil => grind [insertField, String.lt_asymm]
  | cons f r ih => grind [insertField]

theorem sortFields_append (a b : List (String × Value)) :
    sortFields (a ++ b) = a.foldr insertField (sortFields b) := List.foldr_append

theorem sortFields_swap (h : d.1 ≠ e.1) (before after : List (String × Value)) :
    sortFields (before ++ d :: e :: after) = sortFields (before ++ e :: d :: after) := by
  rw [sortFields_append, sortFields_append]
  exact congrArg (before.foldr insertField) (insertField_comm h (sortFields after))

/-- A field is moved past smaller keys only. -/
theorem reordered_insertField (before : Assoc Value) (e : String × Value)
    (fields : List (String × Value)) :
    Reordered (.object (before ++ e :: fields)) (.object (before ++ insertField e fields)) := by
  induction fields generalizing before with
  | nil => exact .refl _
  | cons f r ih =>
    rw [insertField]
    split
    · rename_i h
      have hne : e.1 ≠ f.1 := fun he => String.lt_irrefl _ (he ▸ h)
      have hrest := ih (before ++ [f])
      simp only [List.append_assoc, List.singleton_append] at hrest
      exact (Reordered.swap before r hne).trans hrest
    · exact .refl _

theorem reordered_sortFields (before : Assoc Value) (fields : List (String × Value)) :
    Reordered (.object (before ++ fields)) (.object (before ++ sortFields fields)) := by
  induction fields generalizing before with
  | nil => exact .refl _
  | cons e r ih =>
    have hrest := ih (before ++ [e])
    simp only [List.append_assoc, List.singleton_append] at hrest
    exact hrest.trans (reordered_insertField before e (sortFields r))

end Fields

section Sorted
variable {v w : Value}

theorem sortedItems_eq_map (items : List Value) : sortedItems items = items.map sorted := by
  induction items with
  | nil => rfl
  | cons v r ih => rw [sortedItems, ih, List.map_cons]

theorem sortedFields_eq_map (fields : List (String × Value)) :
    sortedFields fields = fields.map fun e => (e.1, sorted e.2) := by
  induction fields with
  | nil => rfl
  | cons e r ih => rw [sortedFields, ih, List.map_cons]

/-- Whatever the order of the keys, the value is sorted to the same. -/
theorem sorted_eq_of_reordered (h : Reordered v w) : sorted w = sorted v := by
  induction h with
  | refl v => rfl
  | trans _ _ ih₁ ih₂ => exact ih₂.trans ih₁
  | @swap d e before after hne =>
    simp only [sorted, sortedFields_eq_map, List.map_append, List.map_cons]
    rw [sortFields_swap (d := (e.1, sorted e.2)) (e := (d.1, sorted d.2)) hne.symm]
  | field before after k _ ih =>
    simp only [sorted, sortedFields_eq_map, List.map_append, List.map_cons, ih]
  | item before after _ ih =>
    simp only [sorted, sortedItems_eq_map, List.map_append, List.map_cons, ih]

/-- Sorting changes the order of keys and nothing else. -/
theorem reordered_sorted (v : Value) : Reordered v (sorted v) := by
  induction v using Value.induction with
  | null | bool | number | string => exact .refl _
  | array items ih =>
    rw [sorted, sortedItems_eq_map]
    exact reordered_map_items [] ih
  | object fields ih =>
    rw [sorted, sortedFields_eq_map]
    exact (reordered_map_fields [] ih).trans (reordered_sortFields [] _)

theorem ascending_sorted (h : v.Distinct) : (sorted v).Ascending := by
  induction v using Value.induction with
  | null => exact .null
  | bool b => exact .bool b
  | number n => exact .number n
  | string s => exact .string s
  | array items ih =>
    cases h with
    | array hitems =>
      rw [sorted, sortedItems_eq_map]
      exact .array (List.forall_mem_map.2 fun v hv => ih v hv (hitems v hv))
  | object fields ih =>
    have hsorted := (reordered_sorted (.object fields)).distinct h
    rw [sorted] at hsorted ⊢
    cases h with
    | object hkeys hfields =>
    cases hsorted with
    | object hdistinct hall =>
      rw [sortedFields_eq_map, sortFields_eq] at hdistinct ⊢
      refine .object ?_ fun e he => ?_
      · -- keys that do not descend, and none twice
        have hle := List.pairwise_insertionSort KeysLe (fields.map fun e => (e.1, sorted e.2))
        rw [Assoc.keys, List.pairwise_map]
        refine hle.imp₂ (fun d e hle hne => ?_) (List.pairwise_map.1 hdistinct)
        exact String.not_le.1 fun hge => hne (String.le_antisymm hle hge)
      · have hmem := (List.perm_insertionSort KeysLe _).mem_iff.1 he
        obtain ⟨f, hf, rfl⟩ := List.mem_map.1 hmem
        exact ih f hf (hfields f hf)

end Sorted

end Render

open Render in
/-- The raw text is canonical. It is the same for all orders of the keys, at any depth; it is the
plain layout of the value with its keys in ascending order, and is read as this. -/
theorem render_canonical {v : Value} (hdistinct : v.Distinct) (color invert : Bool) :
    let raw (u : Value) := render { formatted := false, color, invert } u
    (∀ w, v.Reordered w → raw w = raw v) ∧
    ∃ u, v.Reordered u ∧ u.Ascending ∧ raw v = render {} u ∧
      (v.Legible → v.depth ≤ depthLimit → Json.read (raw v) = .ok u) := by
  intro raw
  have hraw (v : Value) : raw v = render {} (sorted v) := rfl
  have hsorted := reordered_sorted v
  refine ⟨fun w hw => ?_, sorted v, hsorted, ascending_sorted hdistinct, rfl, ?_⟩
  · rw [hraw, hraw, sorted_eq_of_reordered hw]
  · intro hlegible hdepth
    rw [hraw]
    exact read_render _ (hsorted.distinct hdistinct) (hsorted.legible hlegible)
      (hsorted.depth_eq ▸ hdepth) false

/-- A mapping in a list in a mapping, each with keys that descend. -/
theorem render_canonical_nested :
    let v : Value := .object [("b", .array [.string "x", .object [("z", .number (.int 1)),
      ("y", .null)]]), ("a", .object [])]
    let w : Value := .object [("a", .object []), ("b", .array [.string "x", .object [("y", .null),
      ("z", .number (.int 1))]])]
    let raw (u : Value) := render { formatted := false, color := true, invert := false } u
    (v.Distinct ∧ v.Reordered w ∧ v.Legible ∧ v.depth ≤ depthLimit) ∧ raw w = raw v ∧
      ∃ u, v.Reordered u ∧ u.Ascending ∧ raw v = render {} u ∧ Json.read (raw v) = .ok u := by
  intro v w raw
  have hdistinct : v.Distinct := by
    refine .object (by unfold Assoc.Distinct; decide) ?_
    simp only [List.forall_mem_cons]
    refine ⟨.array ?_, .object List.nodup_nil nofun, nofun⟩
    simp only [List.forall_mem_cons]
    refine ⟨.string "x", .object (by unfold Assoc.Distinct; decide) ?_, nofun⟩
    simp only [List.forall_mem_cons]
    exact ⟨.number _, .null, nofun⟩
  have hreordered : v.Reordered w := by
    have hinner := Reordered.swap (d := ("z", .number (.int 1))) (e := ("y", .null)) [] []
      (by decide)
    exact ((hinner.item [.string "x"] []).field [] [("a", .object [])] "b").trans
      (.swap [] [] (by decide))
  have hlegible : v.Legible := by
    refine .object ?_
    simp only [List.forall_mem_cons]
    refine ⟨.array ?_, .object nofun, nofun⟩
    simp only [List.forall_mem_cons]
    refine ⟨.string "x", .object ?_, nofun⟩
    simp only [List.forall_mem_cons]
    exact ⟨.number (read_int (by decide) (by decide)), .null, nofun⟩
  have hdepth : v.depth ≤ depthLimit := by decide
  obtain ⟨hsame, u, hu, hascending, htext, hread⟩ := render_canonical hdistinct true false
  exact ⟨⟨hdistinct, hreordered, hlegible, hdepth⟩, hsame w hreordered, u, hu, hascending, htext,
    hread hlegible hdepth⟩

end RestShell
