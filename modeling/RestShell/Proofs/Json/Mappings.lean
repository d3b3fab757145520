import RestShell.Json.Basic
import RestShell.Proofs.Assoc

/-! Mappings within mappings. A path of keys is followed through mappings only. Two values may
differ in the order of the keys of their mappings and in nothing else; putting two keys into a
mapping in either order makes such a difference at most. -/

namespace RestShell

namespace Assoc
variable {β : Type}

theorem put_put (k : String) (v w : β) (m : Assoc β) : (m.put k v).put k w = m.put k w := by
  induction m with
  | nil => simp [put]
  | cons e r ih => by_cases h : e.1 = k <;> simp [put, h, ih]

/-- A key that is put takes one place, whatever its value. -/
theorem put_eq (k : String) (m : Assoc β) :
    ∃ before after, ∀ v, m.put k v = before ++ (k, v) :: after := by
  induction m with
  | nil => exact ⟨[], [], fun _ => rfl⟩
  | cons e r ih =>
    by_cases h : e.1 = k
    · exact ⟨[], r, fun v => by simp [put, h]⟩
    · obtain ⟨before, after, hput⟩ := ih
      exact ⟨e :: before, after, fun v => by simp [put, h, hput]⟩

theorem put_of_notMem {k : String} {m : Assoc β} (h : k ∉ m.keys) (v : β) :
    m.put k v = m ++ [(k, v)] := by
  induction m with
  | nil => rfl
  | cons e r ih =>
    obtain ⟨hne, hr⟩ : k ≠ e.1 ∧ k ∉ keys r := by simpa [keys] using h
    simp [put, Ne.symm hne, ih hr]

/-- Entries under different keys are merged into what they are. -/
theorem merge_nil_of_distinct {m : Assoc β} (h : m.Distinct) : merge [] m = m := by
  induction m using List.reverseRecOn with
  | nil => rfl
  | append_singleton m e ih =>
    unfold Distinct keys at h
    rw [List.map_append, List.nodup_append] at h
    obtain ⟨hm, -, hne⟩ := h
    have hnot : e.1 ∉ keys m := fun he => hne _ he e.1 (by simp) rfl
    rw [merge_concat, ih hm, put_of_notMem hnot]

theorem put_append_of_mem {k : String} {m : Assoc β} (h : k ∈ m.keys) (v : β) (more : Assoc β) :
    put k v (m ++ more) = m.put k v ++ more := by
  induction m with
  | nil => simp [keys] at h
  | cons e r ih =>
    by_cases he : e.1 = k
    · simp [put, he]
    · have hr : k ∈ keys r := by simpa [keys, Ne.symm he] using h
      simp [put, he, ih hr]

/-- Two keys that are there already are put in either order. -/
theorem put_comm_of_mem {j k : String} {m : Assoc β} (hjk : j ≠ k) (hj : j ∈ m.keys)
    (hk : k ∈ m.keys) (v w : β) : (m.put j w).put k v = (m.put k v).put j w := by
  induction m with
  | nil => simp [keys] at hj
  | cons e r ih =>
    by_cases hej : e.1 = j
    · have hek : e.1 ≠ k := hej ▸ hjk
      simp [put, hej, hjk]
    · by_cases hek : e.1 = k
      · simp [put, hek, Ne.symm hjk]
      · have hrj : j ∈ keys r := by simpa [keys, Ne.symm hej] using hj
        have hrk : k ∈ keys r := by simpa [keys, Ne.symm hek] using hk
        simp [put, hej, hek, ih hrj hrk]

theorem prefix_keys_put (k : String) (v : β) (m : Assoc β) : m.keys <+: (m.put k v).keys := by
  rw [keys_put]
  split
  · exact List.prefix_refl _
  · exact List.prefix_append _ _

end Assoc

namespace Json.Value

/-- What a path of keys leads to through mappings. -/
def at? : List String → Value → Option Value
  | [], v => some v
  | k :: ks, .object fields => (Assoc.get? k fields).bind (at? ks)
  | _ :: _, _ => none

@[simp] theorem at?_nil (v : Value) : v.at? [] = some v := by
  cases v <;> rfl

@[simp] theorem at?_cons_object (k : String) (ks : List String) (fields : Assoc Value) :
    (object fields).at? (k :: ks) = (Assoc.get? k fields).bind (at? ks) := rfl

theorem at?_cons_of_not_object {v : Value} (h : ∀ fields, v ≠ .object fields) (k : String)
    (ks : List String) : v.at? (k :: ks) = none := by
  cases v with
  | object fields => exact absurd rfl (h fields)
  | _ => rfl

/-- Equal but for the order of the keys of mappings, at any depth: neighbours may change places. -/
inductive Reordered : Value → Value → Prop where
  | refl (v : Value) : Reordered v v
  | trans {u v w : Value} : Reordered u v → Reordered v w → Reordered u w
  | swap {d e : String × Value} (before after : Assoc Value) : d.1 ≠ e.1 →
      Reordered (.object (before ++ d :: e :: after)) (.object (before ++ e :: d :: after))
  | field {v w : Value} (before after : Assoc Value) (k : String) : Reordered v w →
      Reordered (.object (before ++ (k, v) :: after)) (.object (before ++ (k, w) :: after))
  | item {v w : Value} (before after : List Value) : Reordered v w →
      Reordered (.array (before ++ v :: after)) (.array (before ++ w :: after))

theorem Reordered.put {v w : Value} (h : Reordered v w) (k : String) (m : Assoc Value) :
    Reordered (.object (m.put k v)) (.object (m.put k w)) := by
  obtain ⟨before, after, hput⟩ := Assoc.put_eq k m
  rw [hput, hput]
  exact h.field before after k

/-- Two keys are put in either order: only where both are new, their order is that of the puts. -/
theorem reordered_put_put {j k : String} (hjk : j ≠ k) (v w : Value) (m : Assoc Value) :
    Reordered (.object ((m.put j w).put k v)) (.object ((m.put k v).put j w)) := by
  by_cases hj : j ∈ m.keys
  · by_cases hk : k ∈ m.keys
    · rw [Assoc.put_comm_of_mem hjk hj hk]
      exact .refl _
    · have hk' : k ∉ (m.put j w).keys := by rwa [Assoc.keys_put, if_pos hj]
      rw [Assoc.put_of_notMem hk, Assoc.put_of_notMem hk', Assoc.put_append_of_mem hj]
      exact .refl _
  · have hj' : j ∉ (m.put k v).keys := by
      rw [Assoc.keys_put]
      split
      · exact hj
      · simpa [hj] using hjk
    rw [Assoc.put_of_notMem hj, Assoc.put_of_notMem hj']
    by_cases hk : k ∈ m.keys
    · rw [Assoc.put_append_of_mem hk]
      exact .refl _
    · have hk' : k ∉ Assoc.keys (m ++ [(j, w)]) := by
        simpa [Assoc.keys, hk, Ne.symm hjk] using hk
      rw [Assoc.put_of_notMem hk', Assoc.put_of_notMem hk, List.append_assoc, List.append_assoc]
      exact .swap m [] hjk

end Json.Value
end RestShell
