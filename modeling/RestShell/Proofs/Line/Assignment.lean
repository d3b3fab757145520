import RestShell.Line.Parameter
import RestShell.Proofs.Json.Mappings
import RestShell.Proofs.Line.Scan

/-! Values assigned at paths of keys. An assignment is found again under its path, leaves alone what
stands apart from it, and takes no key from its place; two that stand apart can change places. A
token is refused before anything is assigned. -/

namespace RestShell

open Json

/-- Neither path leads on from the other. -/
def Apart (ks qs : List String) : Prop := ¬ ks <+: qs ∧ ¬ qs <+: ks

theorem Apart.symm {ks qs : List String} (h : Apart ks qs) : Apart qs ks := ⟨h.2, h.1⟩

theorem Apart.of_cons {k : String} {ks qs : List String} (h : Apart (k :: ks) (k :: qs)) :
    Apart ks qs := by
  simpa [Apart, List.cons_prefix_cons] using h

theorem Apart.ne_nil {ks qs : List String} (h : Apart ks qs) : ks ≠ [] := by
  rintro rfl
  exact h.1 List.nil_prefix

theorem Text.split_ne_nil (sep : Char) (s : String) : Text.split sep s ≠ [] := by
  simpa [Text.split] using Chars.split_ne_nil sep s.toList

namespace Parameter
variable {m : Assoc Value} {k : String} {ks qs js : List String} {v : Value}

/-- The mapping under a key; an empty one if something else is there, or nothing. -/
def inner (k : String) (m : Assoc Value) : Assoc Value :=
  match m.get? k with
  | some (.object fields) => fields
  | _ => []

/-- What an assignment puts under the first key of its path. -/
def held (k : String) (ks : List String) (v : Value) (m : Assoc Value) : Value :=
  if ks = [] then v else .object (assign ks v (inner k m))

theorem assign_cons (k : String) (ks : List String) (v : Value) (m : Assoc Value) :
    assign (k :: ks) v m = m.put k (held k ks v m) := by
  cases ks <;> rfl

theorem held_eq (k : String) (h : ks ≠ []) (v : Value) (m : Assoc Value) :
    held k ks v m = .object (assign ks v (inner k m)) := if_neg h

theorem inner_put (k : String) (fields m : Assoc Value) :
    inner k (m.put k (.object fields)) = fields := by
  simp [inner, Assoc.get?_put]

theorem held_put_of_ne {j : String} (h : j ≠ k) (ks : List String) (v w : Value)
    (m : Assoc Value) : held k ks v (m.put j w) = held k ks v m := by
  simp [held, inner, Assoc.get?_put, h]

/-- Below a key the same is found in the mapping under it, made or not. -/
theorem at?_inner (k : String) (h : qs ≠ []) (m : Assoc Value) :
    (Value.object (inner k m)).at? qs = (Value.object m).at? (k :: qs) := by
  obtain ⟨q, rest, rfl⟩ := List.exists_cons_of_ne_nil h
  rw [Value.at?_cons_object k, inner]
  split
  · rename_i fields hget
    rw [hget]
    rfl
  · rename_i hnot
    cases hget : Assoc.get? k m with
    | none => rfl
    | some x =>
      have hx : ∀ fields, x ≠ .object fields := fun fields hx => hnot fields (hx ▸ hget)
      rw [Option.bind_some, Value.at?_cons_of_not_object hx]
      rfl

/-- A mapping that a path leads to below a key is found in the mapping under it. -/
theorem at?_inner_object {f : Assoc Value} (k : String)
    (hf : (Value.object m).at? (k :: qs) = some (.object f)) :
    (Value.object (inner k m)).at? qs = some (.object f) := by
  by_cases hqs : qs = []
  · subst hqs
    rw [Value.at?_cons_object] at hf
    obtain ⟨x, hget, hx⟩ := Option.bind_eq_some_iff.1 hf
    rw [Value.at?_nil] at hx
    obtain rfl := Option.some.inj hx
    rw [Value.at?_nil, inner, hget]
  · rw [at?_inner k hqs, hf]

theorem at?_put_of_ne {j : String} (h : j ≠ k) (v : Value) (m : Assoc Value) (qs : List String) :
    (Value.object (m.put j v)).at? (k :: qs) = (Value.object m).at? (k :: qs) := by
  rw [Value.at?_cons_object, Value.at?_cons_object, Assoc.get?_put, if_neg h]

theorem at?_put_self (k : String) (v : Value) (m : Assoc Value) (qs : List String) :
    (Value.object (m.put k v)).at? (k :: qs) = v.at? qs := by
  rw [Value.at?_cons_object, Assoc.get?_put, if_pos rfl, Option.bind_some]

/-- What is assigned is found. -/
theorem at?_assign (h : ks ≠ []) (v : Value) (m : Assoc Value) :
    (Value.object (assign ks v m)).at? ks = some v := by
  induction ks generalizing m with
  | nil => exact absurd rfl h
  | cons k rest ih =>
    rw [assign_cons, at?_put_self]
    by_cases hrest : rest = []
    · subst hrest
      exact Value.at?_nil v
    · rw [held_eq k hrest, ih hrest]

/-- What stands apart is found as before. -/
theorem at?_assign_of_apart (h : Apart ks qs) (v : Value) (m : Assoc Value) :
    (Value.object (assign ks v m)).at? qs = (Value.object m).at? qs := by
  induction ks generalizing qs m with
  | nil => exact absurd rfl h.ne_nil
  | cons k rest ih =>
    obtain ⟨q, further, rfl⟩ := List.exists_cons_of_ne_nil h.symm.ne_nil
    rw [assign_cons]
    by_cases hkq : k = q
    · subst hkq
      have hbelow : Apart rest further := h.of_cons
      rw [at?_put_self, held_eq k hbelow.ne_nil, ih hbelow, at?_inner k hbelow.symm.ne_nil]
    · rw [at?_put_of_ne hkq]

/-- Every mapping that is not replaced keeps its keys in their places. -/
theorem keys_assign {f : Assoc Value} (h : ¬ ks <+: qs)
    (hf : (Value.object m).at? qs = some (.object f)) (v : Value) :
    ∃ f', (Value.object (assign ks v m)).at? qs = some (.object f') ∧
      f.keys <+: Assoc.keys f' := by
  induction ks generalizing qs m with
  | nil => exact absurd List.nil_prefix h
  | cons k rest ih =>
    rw [assign_cons]
    cases qs with
    | nil =>
      cases hf
      exact ⟨_, Value.at?_nil _, Assoc.prefix_keys_put k _ _⟩
    | cons q further =>
      by_cases hkq : k = q
      · subst hkq
        have hbelow : ¬ rest <+: further := by simpa [List.cons_prefix_cons] using h
        have hrest : rest ≠ [] := fun he => hbelow (he ▸ List.nil_prefix)
        rw [at?_put_self, held_eq k hrest]
        exact ih hbelow (at?_inner_object k hf)
      · exact ⟨f, (at?_put_of_ne hkq _ m further).trans hf, List.prefix_refl _⟩

/-- What stands apart is assigned in either order. -/
theorem assign_comm (h : Apart ks js) (v w : Value) (m : Assoc Value) :
    Value.Reordered (.object (assign ks v (assign js w m)))
      (.object (assign js w (assign ks v m))) := by
  induction ks generalizing js m with
  | nil => exact absurd rfl h.ne_nil
  | cons k rest ih =>
    obtain ⟨j, further, rfl⟩ := List.exists_cons_of_ne_nil h.symm.ne_nil
    simp only [assign_cons]
    by_cases hkj : k = j
    · -- both go on under the same key, where one mapping takes both
      subst hkj
      have hbelow : Apart rest further := h.of_cons
      simp only [held_eq k hbelow.ne_nil, held_eq k hbelow.symm.ne_nil, inner_put, Assoc.put_put]
      exact (ih hbelow (inner k m)).put k m
    · -- what is put under either key does not depend on what the other holds
      rw [held_put_of_ne (Ne.symm hkj), held_put_of_ne hkj]
      exact Value.reordered_put_put (Ne.symm hkj) _ _ m

section Tokens
variable {data : Assoc Value} {token name : String}

/-- What an assignment does to a mapping. -/
structure Assigned (ks : List String) (v : Value) (m m' : Assoc Value) : Prop where
  found : (Value.object m').at? ks = some v
  frame : ∀ qs, Apart ks qs → (Value.object m').at? qs = (Value.object m).at? qs
  keys : ∀ qs f, ¬ ks <+: qs → (Value.object m).at? qs = some (.object f) →
    ∃ f', (Value.object m').at? qs = some (.object f') ∧ Assoc.keys f <+: Assoc.keys f'

theorem assigned_assign (h : ks ≠ []) (v : Value) (m : Assoc Value) :
    Assigned ks v m (assign ks v m) where
  found := at?_assign h v m
  frame := fun _ hapart => at?_assign_of_apart hapart v m
  keys := fun _ _ hks hf => keys_assign hks hf v

/-- A token read into a mapping in place: the mapping is still there if the token is refused. -/
def update (data : Assoc Value) (token : String) :
    ExceptT LineError (StateM (Assoc Value)) Unit := do
  let (name, value) ← (read data token : Except LineError (String × Value))
  modify (assign (Text.split '.' name) value)

theorem add_of_read (h : read data token = .ok (name, v)) (m : Assoc Value) :
    add data token m = .ok (assign (Text.split '.' name) v m) := by
  rw [add, h]
  rfl

theorem update_of_read (h : read data token = .ok (name, v)) (m : Assoc Value) :
    (update data token).run.run m = (.ok (), assign (Text.split '.' name) v m) := by
  rw [update, h]
  rfl

theorem update_of_refused {e : LineError} (h : read data token = .error e) (m : Assoc Value) :
    (update data token).run.run m = (.error e, m) := by
  rw [update, h]
  rfl

theorem read_of_add {m' : Assoc Value} (h : add data token m = .ok m') :
    ∃ name v, read data token = .ok (name, v) ∧ m' = assign (Text.split '.' name) v m := by
  cases hread : read data token with
  | error e =>
    rw [add, hread] at h
    cases h
  | ok r =>
    rw [add_of_read hread] at h
    cases h
    exact ⟨r.1, r.2, rfl, rfl⟩

theorem refused_of_add {e : LineError} (h : add data token m = .error e) :
    read data token = .error e := by
  cases hread : read data token with
  | error e' =>
    rw [add, hread] at h
    cases h
    rfl
  | ok r =>
    rw [add_of_read hread] at h
    cases h

/-- A token that is read assigns its value at the path that its name spells, in place as well; one
that is refused leaves the mapping as it was; and tokens whose names stand apart give the same
mapping in either order, but for the order of its keys. -/
theorem add_lawful (data m : Assoc Value) (token : String) :
    (∀ m', add data token m = .ok m' → ∃ name v, read data token = .ok (name, v) ∧
      Assigned (Text.split '.' name) v m m' ∧ (update data token).run.run m = (.ok (), m')) ∧
    (∀ e, add data token m = .error e → (update data token).run.run m = (.error e, m)) ∧
    ∀ token' name name' v v', read data token = .ok (name, v) →
      read data token' = .ok (name', v') → Apart (Text.split '.' name) (Text.split '.' name') →
      ∃ m₁ m₂, (add data token m >>= add data token') = .ok m₁ ∧
        (add data token' m >>= add data token) = .ok m₂ ∧
        Value.Reordered (.object m₁) (.object m₂) := by
  refine ⟨?_, fun e h => update_of_refused (refused_of_add h) m, ?_⟩
  · intro m' h
    obtain ⟨name, v, hread, rfl⟩ := read_of_add h
    exact ⟨name, v, hread, assigned_assign (Text.split_ne_nil '.' name) v m,
      update_of_read hread m⟩
  · intro token' name name' v v' hread hread' hapart
    refine ⟨assign (Text.split '.' name') v' (assign (Text.split '.' name) v m),
      assign (Text.split '.' name) v (assign (Text.split '.' name') v' m), ?_, ?_,
      assign_comm hapart.symm v' v m⟩
    · rw [add_of_read hread]
      exact add_of_read hread' _
    · rw [add_of_read hread']
      exact add_of_read hread _

/-- Below a mapping that is there, over a value that is none, and under no name. -/
theorem add_lawful_nested :
    let m : Assoc Value := [("a", .string "1"), ("b", .object [("x", .null)])]
    let m' : Assoc Value := [("a", .string "1"), ("b", .object [("x", .null), ("y", .string "3")])]
    (add [] "b.y=3" m = .ok m' ∧ add [] "=1" m = .error (.grammar (.namelessParameter "=1")) ∧
      read [] "b.y=3" = .ok ("b.y", .string "3") ∧ read [] "a.c" = .ok ("a.c", .bool true) ∧
      Apart (Text.split '.' "b.y") (Text.split '.' "a.c")) ∧
    Assigned (Text.split '.' "b.y") (.string "3") m m' ∧
    (update [] "=1").run.run m = (.error (.grammar (.namelessParameter "=1")), m) ∧
    ∃ m₁ m₂, (add [] "b.y=3" m >>= add [] "a.c") = .ok m₁ ∧
      (add [] "a.c" m >>= add [] "b.y=3") = .ok m₂ ∧
      Value.Reordered (.object m₁) (.object m₂) := by
  intro m m'
  have hadd : add [] "b.y=3" m = .ok m' := by decide +kernel
  have hrefused : add [] "=1" m = .error (.grammar (.namelessParameter "=1")) := by decide +kernel
  have hread : read [] "b.y=3" = .ok ("b.y", .string "3") := by decide +kernel
  have hread' : read [] "a.c" = .ok ("a.c", .bool true) := by decide +kernel
  have hapart : Apart (Text.split '.' "b.y") (Text.split '.' "a.c") := by
    unfold Apart
    decide +kernel
  refine ⟨⟨hadd, hrefused, hread, hread', hapart⟩, ?_,
    (add_lawful [] m "=1").2.1 _ hrefused,
    (add_lawful [] m "b.y=3").2.2 _ _ _ _ _ hread hread' hapart⟩
  obtain ⟨name, v, hname, hassigned, -⟩ := (add_lawful [] m "b.y=3").1 m' hadd
  rw [hread] at hname
  cases hname
  exact hassigned

end Tokens

end Parameter
end RestShell
