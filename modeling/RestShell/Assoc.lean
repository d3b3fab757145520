/-! Association lists in which the order of the keys is the order of their
first insertion. `put` replaces a value where it stands or appends a new entry;
`erase` closes the gap; `merge` puts one list's entries into another. -/

namespace RestShell

abbrev Assoc (β : Type) := List (String × β)

namespace Assoc
variable {β : Type}

def keys (m : Assoc β) : List String := m.map Prod.fst

def values (m : Assoc β) : List β := m.map Prod.snd

def get? (k : String) : Assoc β → Option β
  | [] => none
  | (j, v) :: r => if j = k then some v else get? k r

def has (k : String) (m : Assoc β) : Bool := (m.get? k).isSome

def put (k : String) (v : β) : Assoc β → Assoc β
  | [] => [(k, v)]
  | (j, w) :: r => if j = k then (j, v) :: r else (j, w) :: put k v r

def erase (k : String) : Assoc β → Assoc β
  | [] => []
  | (j, w) :: r => if j = k then r else (j, w) :: erase k r

/-- Puts the entries of `more` into `m`, first to last. -/
def merge (m more : Assoc β) : Assoc β := more.foldl (fun acc e => acc.put e.1 e.2) m

/-- No key occurs twice. -/
def Distinct (m : Assoc β) : Prop := m.keys.Nodup

theorem get?_put (k : String) (v : β) (m : Assoc β) (j : String) :
    (m.put k v).get? j = if k = j then some v else m.get? j := by
  induction m with
  | nil => simp [put, get?]
  | cons e r ih =>
    obtain ⟨a, w⟩ := e
    grind [put, get?]

theorem keys_put (k : String) (v : β) (m : Assoc β) :
    (m.put k v).keys = if k ∈ m.keys then m.keys else m.keys ++ [k] := by
  induction m with
  | nil => simp [put, keys]
  | cons e r ih =>
    obtain ⟨a, w⟩ := e
    by_cases h : a = k
    · simp [put, keys, h]
    · have h' : k ≠ a := fun e => h e.symm
      simp only [keys] at ih
      by_cases hk : k ∈ r.map Prod.fst <;> simp [put, keys, h, h', ih, hk]

theorem get?_isSome_iff (k : String) (m : Assoc β) : (m.get? k).isSome ↔ k ∈ m.keys := by
  induction m with
  | nil => simp [get?, keys]
  | cons e r ih =>
    obtain ⟨a, w⟩ := e
    simp only [get?]
    split
    · simp_all [keys]
    · rename_i h
      rw [ih]; simp [keys, Ne.symm h]

theorem Distinct.put {m : Assoc β} (h : m.Distinct) (k : String) (v : β) :
    (m.put k v).Distinct := by
  unfold Distinct at *
  rw [keys_put]
  split
  · exact h
  · rename_i hk
    rw [List.nodup_append]
    refine ⟨h, by simp, ?_⟩
    intro a ha b hb
    simp only [List.mem_singleton] at hb
    rintro rfl
    exact hk (hb ▸ ha)

theorem keys_erase (k : String) (m : Assoc β) : (m.erase k).keys = m.keys.erase k := by
  induction m with
  | nil => rfl
  | cons e r ih =>
    obtain ⟨a, w⟩ := e
    simp only [keys] at ih
    simp only [Assoc.erase, keys, List.map_cons, List.erase_cons]
    split
    · simp_all
    · rename_i h
      simp [ih, h]

theorem Distinct.erase {m : Assoc β} (h : m.Distinct) (k : String) : (m.erase k).Distinct := by
  unfold Distinct at *
  rw [keys_erase]
  exact h.erase k

end Assoc
end RestShell
