import Mathlib.Data.Nat.Count
import Mathlib.Data.List.Induction
import RestShell.Json.Basic
import RestShell.Assoc

/-! Positions in a JSON value. A node is reached from the root by keys and indices. The nodes of a
value can be listed in document order, and taken away by their positions, each with all below it.
Taking away twice is taking away once: what the second time is named is found where the nodes
stood at first. -/

namespace RestShell.Json

/-- A step from a value to one of its children. -/
inductive Edge where
  | key (k : String)
  | index (i : Nat)
deriving DecidableEq, Repr

/-- The steps that lead from the root to a node. -/
abbrev Position := List Edge

namespace Value

/-- No mapping in the value has a key twice. -/
inductive Distinct : Value → Prop where
  | null : Distinct .null
  | bool (b : Bool) : Distinct (.bool b)
  | number (n : Number) : Distinct (.number n)
  | string (s : String) : Distinct (.string s)
  | array {items : List Value} : (∀ v ∈ items, Distinct v) → Distinct (.array items)
  | object {fields : List (String × Value)} : Assoc.Distinct fields →
      (∀ e ∈ fields, Distinct e.2) → Distinct (.object fields)

section Nodes

/-- A node seen from one step further up. -/
def under (e : Edge) (n : Position × Value) : Position × Value := (e :: n.1, n.2)

mutual
/-- The nodes of a value with their positions, in document order. -/
def nodes : Value → List (Position × Value)
  | .array items => ([], .array items) :: itemNodes 0 items
  | .object fields => ([], .object fields) :: fieldNodes fields
  | v => [([], v)]
def itemNodes (i : Nat) : List Value → List (Position × Value)
  | [] => []
  | v :: rest => v.nodes.map (under (.index i)) ++ itemNodes (i + 1) rest
def fieldNodes : List (String × Value) → List (Position × Value)
  | [] => []
  | (k, v) :: rest => v.nodes.map (under (.key k)) ++ fieldNodes rest
end

end Nodes

section Without

mutual
/-- The value without the nodes at some positions. The root stays. -/
def without (gone : Position → Bool) : Value → Value
  | .array items => .array (itemsWithout gone 0 items)
  | .object fields => .object (fieldsWithout gone fields)
  | v => v
def itemsWithout (gone : Position → Bool) (i : Nat) : List Value → List Value
  | [] => []
  | v :: rest =>
    if gone [.index i] then itemsWithout gone (i + 1) rest
    else v.without (fun p => gone (.index i :: p)) :: itemsWithout gone (i + 1) rest
def fieldsWithout (gone : Position → Bool) : List (String × Value) → List (String × Value)
  | [] => []
  | (k, v) :: rest =>
    if gone [.key k] then fieldsWithout gone rest
    else (k, v.without fun p => gone (.key k :: p)) :: fieldsWithout gone rest
end

end Without

end Value

section Gone
variable {G H : Position → Bool} {p q : Position}

/-- A node is gone with a node above it, and the root never is. -/
def struck (gone : Position → Bool) : Position → Bool
  | [] => false
  | e :: p => gone [e] || struck (fun q => gone (e :: q)) p

/-- Where a node stands when the nodes at some positions are gone: an index falls by the number of
elements before it that are. -/
def renumber (gone : Position → Bool) : Position → Position
  | [] => []
  | .key k :: p => .key k :: renumber (fun q => gone (.key k :: q)) p
  | .index i :: p =>
    .index (Nat.count (fun j => gone [.index j] = false) i) ::
      renumber (fun q => gone (.index i :: q)) p

/-- The first step of a position when the nodes at some positions are gone. -/
def Edge.renumber (gone : Position → Bool) : Edge → Edge
  | .key k => .key k
  | .index i => .index (Nat.count (fun j => gone [.index j] = false) i)

theorem renumber_cons (G : Position → Bool) (e : Edge) (p : Position) :
    renumber G (e :: p) = e.renumber G :: renumber (fun q => G (e :: q)) p := by
  cases e <;> rfl

theorem renumber_append (G : Position → Bool) (p q : Position) :
    renumber G (p ++ q) = renumber G p ++ renumber (fun r => G (p ++ r)) q := by
  induction p generalizing G with
  | nil => rfl
  | cons e p ih => simp only [List.cons_append, renumber_cons, ih]

theorem struck_append (G : Position → Bool) (p q : Position) :
    struck G (p ++ q) = (struck G p || struck (fun r => G (p ++ r)) q) := by
  induction p generalizing G with
  | nil => simp [struck]
  | cons e p ih => simp only [List.cons_append, struck, ih, Bool.or_assoc]

theorem struck_concat (G : Position → Bool) (p : Position) (e : Edge) :
    struck G (p ++ [e]) = (struck G p || G (p ++ [e])) := by
  simp [struck_append, struck]

theorem struck_below (h : struck G p = true) (q : Position) : struck G (p ++ q) = true := by
  rw [struck_append, h, Bool.true_or]

theorem struck_any {α : Type} (xs : List α) (f : α → Position → Bool) (p : Position) :
    struck (fun q => xs.any fun x => f x q) p = xs.any fun x => struck (f x) p := by
  induction p generalizing f with
  | nil => simp [struck]
  | cons e p ih =>
    rw [struck, ih fun x q => f x (e :: q), Bool.eq_iff_iff]
    simp only [Bool.or_eq_true, List.any_eq_true, struck]
    constructor
    · rintro (⟨x, hx, h⟩ | ⟨x, hx, h⟩)
      · exact ⟨x, hx, .inl h⟩
      · exact ⟨x, hx, .inr h⟩
    · rintro ⟨x, hx, h | h⟩
      · exact .inl ⟨x, hx, h⟩
      · exact .inr ⟨x, hx, h⟩

/-- What is gone at first, and then where nodes stand, is gone in one go. -/
theorem struck_or_renumber (G H : Position → Bool) (p : Position) :
    struck (fun q => G q || H (renumber G q)) p = (struck G p || struck H (renumber G p)) := by
  induction p generalizing G H with
  | nil => rfl
  | cons e p ih =>
    have hone : renumber G [e] = [e.renumber G] := renumber_cons G e []
    simp only [struck, renumber_cons, hone]
    rw [ih (fun q => G (e :: q)) (fun q => H (e.renumber G :: q))]
    ac_rfl

/-- Where nothing is gone as far down as a node, the node stays in place. -/
theorem renumber_of_none (h : ∀ q, q ≠ [] → q.length ≤ p.length → G q = false) :
    renumber G p = p := by
  induction p generalizing G with
  | nil => rfl
  | cons e p ih =>
    have hhead : e.renumber G = e := by
      cases e with
      | key k => rfl
      | index i =>
        have hcount : Nat.count (fun j => G [.index j] = false) i = i :=
          Nat.count_iff_forall.2 fun j _ => h [.index j] (by simp) (by simp)
        rw [Edge.renumber, hcount]
    rw [renumber_cons, hhead, ih fun q _ hq => h (e :: q) (by simp) (by simpa using hq)]

end Gone

namespace Value
variable {G H : Position → Bool} {items : List Value} {fields : List (String × Value)} {v : Value}

theorem itemsWithout_append (G : Position → Bool) (i : Nat) (a b : List Value) :
    itemsWithout G i (a ++ b) = itemsWithout G i a ++ itemsWithout G (i + a.length) b := by
  induction a generalizing i with
  | nil => rfl
  | cons v a ih =>
    have hlength : i + (v :: a).length = i + 1 + a.length := by
      rw [List.length_cons]
      omega
    rw [List.cons_append, itemsWithout, itemsWithout, ih, hlength]
    split <;> rfl

theorem itemsWithout_twice (hv : ∀ v ∈ items, ∀ G H : Position → Bool,
      (v.without G).without H = v.without fun p => G p || H (renumber G p)) (i : Nat) :
    itemsWithout H (Nat.count (fun j => G [.index j] = false) i) (itemsWithout G i items) =
      itemsWithout (fun p => G p || H (renumber G p)) i items := by
  induction items generalizing i with
  | nil => rfl
  | cons v rest ih =>
    obtain ⟨hv, hrest⟩ := List.forall_mem_cons.1 hv
    have hnext := ih hrest (i + 1)
    cases hG : G [.index i] with
    | true =>
      rw [Nat.count_succ, if_neg (by simp [hG]), Nat.add_zero] at hnext
      simp only [itemsWithout, hG, Bool.true_or, if_true]
      exact hnext
    | false =>
      rw [Nat.count_succ, if_pos hG] at hnext
      simp only [itemsWithout, hG, Bool.false_or, Bool.false_eq_true, if_false]
      rw [hnext, hv]
      rfl

theorem fieldsWithout_twice (hv : ∀ e ∈ fields, ∀ G H : Position → Bool,
      (e.2.without G).without H = e.2.without fun p => G p || H (renumber G p)) :
    fieldsWithout H (fieldsWithout G fields) =
      fieldsWithout (fun p => G p || H (renumber G p)) fields := by
  induction fields with
  | nil => rfl
  | cons e rest ih =>
    obtain ⟨hv, hrest⟩ := List.forall_mem_cons.1 hv
    have hnext := ih hrest
    cases hG : G [.key e.1] with
    | true =>
      simp only [fieldsWithout, hG, Bool.true_or, if_true]
      exact hnext
    | false =>
      simp only [fieldsWithout, hG, Bool.false_or, Bool.false_eq_true, if_false]
      rw [hnext, hv]
      rfl

/-- Taking away twice is taking away once: what the second time takes is found where the nodes
stand after the first. -/
theorem without_without (v : Value) (G H : Position → Bool) :
    (v.without G).without H = v.without fun p => G p || H (renumber G p) := by
  induction v using Value.induction generalizing G H with
  | null | bool | number | string => rfl
  | array items ih => exact congrArg Value.array (itemsWithout_twice ih 0)
  | object fields ih => exact congrArg Value.object (fieldsWithout_twice ih)

theorem itemsWithout_congr (h : ∀ p, struck G p = struck H p)
    (hv : ∀ v ∈ items, ∀ {G H : Position → Bool}, (∀ p, struck G p = struck H p) →
      v.without G = v.without H) (i : Nat) : itemsWithout G i items = itemsWithout H i items := by
  induction items generalizing i with
  | nil => rfl
  | cons v rest ih =>
    obtain ⟨hv, hrest⟩ := List.forall_mem_cons.1 hv
    have hone : G [.index i] = H [.index i] := by simpa [struck] using h [.index i]
    rw [itemsWithout, itemsWithout, ih hrest, hone]
    cases hH : H [.index i] with
    | true => rfl
    | false => rw [hv fun p => by simpa [struck, hone, hH] using h (.index i :: p)]

theorem fieldsWithout_congr (h : ∀ p, struck G p = struck H p)
    (hv : ∀ e ∈ fields, ∀ {G H : Position → Bool}, (∀ p, struck G p = struck H p) →
      e.2.without G = e.2.without H) : fieldsWithout G fields = fieldsWithout H fields := by
  induction fields with
  | nil => rfl
  | cons e rest ih =>
    obtain ⟨hv, hrest⟩ := List.forall_mem_cons.1 hv
    have hone : G [.key e.1] = H [.key e.1] := by simpa [struck] using h [.key e.1]
    rw [fieldsWithout, fieldsWithout, ih hrest, hone]
    cases hH : H [.key e.1] with
    | true => rfl
    | false => rw [hv fun p => by simpa [struck, hone, hH] using h (.key e.1 :: p)]

/-- What a value is without some nodes depends only on which of its positions are struck. -/
theorem without_congr (h : ∀ p, struck G p = struck H p) (v : Value) :
    v.without G = v.without H := by
  induction v using Value.induction generalizing G H with
  | null | bool | number | string => rfl
  | array items ih => exact congrArg Value.array (itemsWithout_congr h ih 0)
  | object fields ih => exact congrArg Value.object (fieldsWithout_congr h ih)

theorem itemsWithout_of_none (h : ∀ i, G [.index i] = false)
    (hv : ∀ i, ∀ v ∈ items, v.without (fun p => G (.index i :: p)) = v) (i : Nat) :
    itemsWithout G i items = items := by
  induction items generalizing i with
  | nil => rfl
  | cons v rest ih =>
    rw [itemsWithout, h, hv i v List.mem_cons_self,
      ih fun j w hw => hv j w (List.mem_cons_of_mem v hw)]
    rfl

theorem fieldsWithout_of_none (h : ∀ e ∈ fields, G [.key e.1] = false ∧
      e.2.without (fun p => G (.key e.1 :: p)) = e.2) : fieldsWithout G fields = fields := by
  induction fields with
  | nil => rfl
  | cons e rest ih =>
    obtain ⟨⟨hkey, hv⟩, hrest⟩ := List.forall_mem_cons.1 h
    rw [fieldsWithout, hkey, hv, ih hrest]
    rfl

/-- A value without nothing is the value. -/
theorem without_of_none (h : ∀ p, p ≠ [] → G p = false) (v : Value) : v.without G = v := by
  induction v using Value.induction generalizing G with
  | null | bool | number | string => rfl
  | array items ih =>
    rw [without, itemsWithout_of_none (fun i => h _ (by simp))
      fun i v hv => ih v hv fun p _ => h _ (by simp)]
  | object fields ih =>
    rw [without, fieldsWithout_of_none fun e he =>
      ⟨h _ (by simp), ih e he fun p _ => h _ (by simp)⟩]

theorem keys_fieldsWithout (G : Position → Bool) (fields : List (String × Value)) :
    (Assoc.keys (fieldsWithout G fields)).Sublist (Assoc.keys fields) := by
  induction fields with
  | nil => exact .slnil
  | cons e rest ih =>
    rw [fieldsWithout]
    split
    · exact .cons _ ih
    · exact .cons_cons _ ih

theorem mem_itemsWithout {i : Nat} {w : Value} (h : w ∈ itemsWithout G i items) :
    ∃ v ∈ items, ∃ H, w = v.without H := by
  induction items generalizing i with
  | nil => cases h
  | cons v rest ih =>
    rw [itemsWithout] at h
    have hrest : w ∈ itemsWithout G (i + 1) rest → ∃ v' ∈ v :: rest, ∃ H, w = v'.without H :=
      fun h => (ih h).imp fun v' hv' => ⟨List.mem_cons_of_mem v hv'.1, hv'.2⟩
    split at h
    · exact hrest h
    · rcases List.mem_cons.1 h with rfl | h
      · exact ⟨v, List.mem_cons_self, _, rfl⟩
      · exact hrest h

theorem mem_fieldsWithout {e : String × Value} (h : e ∈ fieldsWithout G fields) :
    ∃ e' ∈ fields, ∃ H, e.2 = e'.2.without H := by
  induction fields with
  | nil => cases h
  | cons d rest ih =>
    rw [fieldsWithout] at h
    have hrest : e ∈ fieldsWithout G rest → ∃ e' ∈ d :: rest, ∃ H, e.2 = e'.2.without H :=
      fun h => (ih h).imp fun e' he' => ⟨List.mem_cons_of_mem d he'.1, he'.2⟩
    split at h
    · exact hrest h
    · rcases List.mem_cons.1 h with rfl | h
      · exact ⟨d, List.mem_cons_self, _, rfl⟩
      · exact hrest h

theorem Distinct.without (h : v.Distinct) (G : Position → Bool) : (v.without G).Distinct := by
  induction h generalizing G with
  | null => exact .null
  | bool b => exact .bool b
  | number n => exact .number n
  | string s => exact .string s
  | array _ ih =>
    refine .array fun w hw => ?_
    obtain ⟨v, hv, H, rfl⟩ := mem_itemsWithout hw
    exact ih v hv H
  | object hkeys _ ih =>
    refine .object (List.Nodup.sublist (keys_fieldsWithout G _) hkeys) fun e he => ?_
    obtain ⟨e', he', H, heq⟩ := mem_fieldsWithout he
    rw [heq]
    exact ih e' he' H

theorem itemsWithout_nulls (G : Position → Bool) (n i : Nat) :
    ∃ m, itemsWithout G i (List.replicate n .null) = List.replicate m .null := by
  induction n generalizing i with
  | zero => exact ⟨0, rfl⟩
  | succ n ih =>
    obtain ⟨m, hm⟩ := ih (i + 1)
    rw [List.replicate_succ, itemsWithout, hm]
    split
    · exact ⟨m, rfl⟩
    · exact ⟨m + 1, rfl⟩

theorem distinct_singleton (h : v.Distinct) (k : String) : (object [(k, v)]).Distinct :=
  .object (List.nodup_singleton k) fun e he => by rwa [List.mem_singleton.1 he]

/-- A list whose last element is a value, at an index, and whose others are null. -/
def padded (i : Nat) (v : Value) : Value := .array (List.replicate i .null ++ [v])

theorem distinct_padded (h : v.Distinct) (i : Nat) : (padded i v).Distinct := by
  refine .array fun w hw => ?_
  rcases List.mem_append.1 hw with hw | hw
  · rw [List.eq_of_mem_replicate hw]
    exact .null
  · rw [List.mem_singleton.1 hw]
    exact h

theorem padded_without (G : Position → Bool) (i : Nat) (v : Value) :
    ∃ m, (padded i v).without G = .array (List.replicate m .null ++
      if G [.index i] then [] else [v.without fun p => G (.index i :: p)]) := by
  obtain ⟨m, hm⟩ := itemsWithout_nulls G i 0
  refine ⟨m, ?_⟩
  rw [padded, without, itemsWithout_append, hm, List.length_replicate, Nat.zero_add]
  rfl

/-- Whether a step is one to a node that is taken away shows in the value that has no other node that
is equal to that one. -/
theorem end_of_without_eq (h : ∀ v : Value, v.Distinct → v.without G = v.without H) (e : Edge) :
    G [e] = H [e] := by
  cases e with
  | key k =>
    have he := h (.object [(k, .null)]) (distinct_singleton .null k)
    cases hG : G [.key k] <;> cases hH : H [.key k] <;>
      simp [without, fieldsWithout, hG, hH] at he ⊢
  | index i =>
    have hlast (n : Nat) (b : Bool) : (List.replicate n Value.null ++
        if b then [] else [Value.bool true]).getLast? = some (.bool true) ↔ b = false := by
      cases b <;> simp [List.getLast?_replicate]
    have he := h (padded i (.bool true)) (distinct_padded (.bool true) i)
    obtain ⟨m, hm⟩ := padded_without G i (.bool true)
    obtain ⟨n, hn⟩ := padded_without H i (.bool true)
    rw [hm, hn, array.injEq] at he
    have hiff : G [.index i] = false ↔ H [.index i] = false := by
      rw [← hlast m, ← hlast n]
      exact he ▸ Iff.rfl
    cases hG : G [.index i] <;> simp_all

/-- What is taken away below a step shows in the value at its end, if that stays. -/
theorem below_of_without_eq (h : ∀ v : Value, v.Distinct → v.without G = v.without H) {e : Edge}
    (hG : G [e] = false) {v : Value} (hv : v.Distinct) :
    v.without (fun p => G (e :: p)) = v.without fun p => H (e :: p) := by
  have hH : H [e] = false := (end_of_without_eq h e).symm.trans hG
  cases e with
  | key k =>
    have he := h (.object [(k, v)]) (distinct_singleton hv k)
    simpa [without, fieldsWithout, hG, hH] using he
  | index i =>
    have he := h (padded i v) (distinct_padded hv i)
    obtain ⟨m, hm⟩ := padded_without G i v
    obtain ⟨n, hn⟩ := padded_without H i v
    rw [hm, hn, hG, hH] at he
    simpa using congrArg List.getLast? (array.inj he)

/-- Values tell which positions are struck: two ways to take nodes away that agree on every value
agree on every position. -/
theorem struck_of_without_eq (h : ∀ v : Value, v.Distinct → v.without G = v.without H)
    (p : Position) : struck G p = struck H p := by
  induction p generalizing G H with
  | nil => rfl
  | cons e p ih =>
    rw [struck, struck, ← end_of_without_eq h e]
    cases hG : G [e] with
    | true => rfl
    | false => exact ih fun v hv => below_of_without_eq h hG hv

end Value

end RestShell.Json
