import RestShell.Proofs.Address.Leaves
import RestShell.Proofs.Address.QueryMerge
import RestShell.Proofs.Address.Splice
import RestShell.Proofs.Assoc
import RestShell.Proofs.Json.Mappings
import RestShell.Proofs.Text.Utf8

/-! Decoding a query. Pairs that were encoded and joined are found again: neither a key nor a value
has a separator, and each is decoded to what it was. The mapping that collects them has every key
once, where it first appears, with its value or, where there are several, with the list of them.
So a flat mapping comes back with the text of each of its values. -/

namespace RestShell

open Json

namespace Chars

section Parts

/-- No `+` is written, so none is taken for a space. -/
theorem plus_notMem_percentEncode (cs : List Char) : 43 ∉ Utf8.encode (percentEncode cs) := by
  have hbyte : ∀ b : UInt8, 43 ∉ Utf8.encode (percentByte b) := forall_uint8 (by decide +kernel)
  intro h
  rw [percentEncode, Utf8.encode, List.flatMap_assoc, List.mem_flatMap] at h
  obtain ⟨b, -, hb⟩ := h
  exact hbyte b hb

theorem decodePart_percentEncode (cs : List Char) : decodePart (percentEncode cs) = cs := by
  have hsame : (Utf8.encode (percentEncode cs)).map (fun b => if b = 43 then 32 else b) =
      Utf8.encode (percentEncode cs) := by
    refine (List.map_congr_left fun b hb => if_neg ?_).trans (List.map_id _)
    rintro rfl
    exact plus_notMem_percentEncode cs hb
  rw [decodePart, hsame, percentDecode_percentEncode, Utf8.decodeLossy_encode]

/-- A key and a value as one piece of a query. -/
def encodedPair (p : List Char × List Char) : List Char :=
  percentEncode p.1 ++ '=' :: percentEncode p.2

theorem notMem_encodedPair (p : List Char × List Char) : '&' ∉ encodedPair p := by
  have hkey := notMem_percentEncode (.inl rfl) p.1
  have hvalue := notMem_percentEncode (.inl rfl) p.2
  simp [encodedPair, hkey, hvalue]

/-- Of pairs that were joined, each is found again. -/
theorem queryPairs_join (ps : List (List Char × List Char)) :
    queryPairs (join '&' (ps.map encodedPair)) = ps := by
  have hpieces : (split '&' (join '&' (ps.map encodedPair))).filter (fun p => !p.isEmpty) =
      ps.map encodedPair := by
    by_cases hps : ps = []
    · rw [hps]
      rfl
    · rw [split_join (by simpa using hps), List.filter_eq_self]
      · intro p hp
        obtain ⟨q, -, rfl⟩ := List.mem_map.1 hp
        simp [encodedPair]
      · intro p hp
        obtain ⟨q, -, rfl⟩ := List.mem_map.1 hp
        exact notMem_encodedPair q
  rw [queryPairs, hpieces, List.map_map]
  refine (List.map_congr_left fun p _ => ?_).trans (List.map_id _)
  simp [encodedPair, cut_append (notMem_percentEncode (.inr rfl) p.1), decodePart_percentEncode]

theorem question_notMem_percentEncode (cs : List Char) : '?' ∉ percentEncode cs := by
  have hbyte : ∀ b : UInt8, '?' ∉ percentByte b := forall_uint8 (by decide +kernel)
  intro h
  obtain ⟨b, -, hb⟩ := List.mem_flatMap.1 h
  exact hbyte b hb

/-- Joined pairs begin with no mark that would be dropped. -/
theorem dropQuestion_join (ps : List (List Char × List Char)) :
    dropQuestion (join '&' (ps.map encodedPair)) = join '&' (ps.map encodedPair) := by
  refine dropQuestion_eq_self_iff.2 fun h => ?_
  rcases mem_join (List.mem_of_head? h) with h | ⟨p, hp, h⟩
  · exact absurd h (by decide)
  · obtain ⟨q, -, rfl⟩ := List.mem_map.1 hp
    simp [encodedPair, question_notMem_percentEncode] at h

end Parts
end Chars

theorem Assoc.eq_map_of_get? {β : Type} {m : Assoc β} (hd : m.Distinct) {f : String → β}
    (h : ∀ k ∈ m.keys, m.get? k = some (f k)) : m = m.keys.map fun k => (k, f k) := by
  induction m with
  | nil => rfl
  | cons e r ih =>
    obtain ⟨k, v⟩ := e
    obtain ⟨hnot, hr⟩ : k ∉ keys r ∧ (keys r).Nodup := List.nodup_cons.1 hd
    have hfirst : v = f k := by simpa [get?] using h k (by simp [keys])
    have hrest : r = (keys r).map fun j => (j, f j) := by
      refine ih hr fun j hj => ?_
      have hne : k ≠ j := fun he => hnot (he ▸ hj)
      have hget := h j (List.mem_cons_of_mem k hj)
      rwa [get?, if_neg hne] at hget
    exact congrArg₂ List.cons (congrArg (Prod.mk k) hfirst) hrest

/-- Neither a list nor a mapping. -/
def Json.Value.Scalar : Value → Prop
  | .array _ => False
  | .object _ => False
  | _ => True

namespace Query

open Chars

section Grouping

variable {k : String} {pairs : List (String × String)}

/-- The values of the pairs under a key, in their order. -/
def valuesUnder (k : String) (pairs : List (String × String)) : List String :=
  (pairs.filter fun p => p.1 = k).map Prod.snd

/-- A single value as a string, several as the list of them. -/
def together : List String → Value
  | [v] => .string v
  | vs => .array (vs.map .string)

/-- The distinct keys of some pairs in the order of their first appearance, each with its values. -/
def grouped (pairs : List (String × String)) : Assoc Value :=
  (pairs.map Prod.fst).eraseDups.map fun k => (k, together (valuesUnder k pairs))

theorem valuesUnder_concat (k : String) (pairs : List (String × String)) (p : String × String) :
    valuesUnder k (pairs ++ [p]) = valuesUnder k pairs ++ if p.1 = k then [p.2] else [] := by
  unfold valuesUnder
  rw [List.filter_append, List.map_append]
  by_cases h : p.1 = k <;> simp [h]

theorem valuesUnder_eq_nil_iff : valuesUnder k pairs = [] ↔ k ∉ pairs.map Prod.fst := by
  simp only [valuesUnder, List.map_eq_nil_iff, List.filter_eq_nil_iff, decide_eq_true_eq,
    List.mem_map, not_exists, not_and]

/-- What stands under a key with these values. -/
def held : List String → Option Value
  | [] => none
  | vs => some (together vs)

theorem get?_collect {m : Assoc Value} {vs : List String} (h : m.get? k = held vs) (v j : String) :
    (collect m k v).get? j = if k = j then held (vs ++ [v]) else m.get? j := by
  match vs with
  | [] =>
    have hcollect : collect m k v = m.put k (.string v) := by simp only [collect, h, held]
    rw [hcollect, Assoc.get?_put]
    rfl
  | [w] =>
    have hcollect : collect m k v = m.put k (.array [.string w, .string v]) := by
      simp only [collect, h, held, together]
    rw [hcollect, Assoc.get?_put]
    rfl
  | w :: x :: r =>
    have hcollect :
        collect m k v = m.put k (.array ((w :: x :: r).map .string ++ [.string v])) := by
      simp only [collect, h, held, together]
    rw [hcollect, Assoc.get?_put]
    simp [held, together]

theorem keys_collect (m : Assoc Value) (k v : String) :
    (collect m k v).keys = if k ∈ m.keys then m.keys else m.keys ++ [k] := by
  unfold collect
  split <;> exact Assoc.keys_put k _ m

/-- The mapping that collects the pairs one by one. -/
def collected (pairs : List (String × String)) : Assoc Value :=
  pairs.foldl (fun m p => collect m p.1 p.2) []

theorem collected_concat (pairs : List (String × String)) (p : String × String) :
    collected (pairs ++ [p]) = collect (collected pairs) p.1 p.2 := by
  rw [collected, List.foldl_concat]
  rfl

theorem keys_collected (pairs : List (String × String)) :
    (collected pairs).keys = (Assoc.merge [] pairs).keys := by
  induction pairs using List.reverseRecOn with
  | nil => rfl
  | append_singleton pairs p ih =>
    rw [collected_concat, keys_collect, ih, Assoc.merge_concat, Assoc.keys_put]

theorem get?_collected (pairs : List (String × String)) (k : String) :
    (collected pairs).get? k = held (valuesUnder k pairs) := by
  induction pairs using List.reverseRecOn generalizing k with
  | nil => rfl
  | append_singleton pairs p ih =>
    rw [collected_concat, get?_collect (ih p.1), valuesUnder_concat]
    split
    · rename_i hk
      rw [hk]
    · rw [ih, List.append_nil]

/-- Collected pairs are grouped by their keys. -/
theorem collected_eq_grouped (pairs : List (String × String)) :
    collected pairs = grouped pairs := by
  have hkeys : (collected pairs).keys = (pairs.map Prod.fst).eraseDups :=
    (keys_collected pairs).trans (Assoc.keys_merge_nil pairs)
  have hdistinct : (collected pairs).Distinct := by
    rw [Assoc.Distinct, keys_collected]
    exact Assoc.distinct_merge_nil pairs
  rw [Assoc.eq_map_of_get? hdistinct (f := fun k => together (valuesUnder k pairs)), hkeys, grouped]
  intro k hk
  rw [hkeys, List.mem_eraseDups] at hk
  have hne : valuesUnder k pairs ≠ [] := fun h => valuesUnder_eq_nil_iff.1 h hk
  obtain ⟨v, vs, hvs⟩ := List.exists_cons_of_ne_nil hne
  rw [get?_collected, hvs]
  rfl

end Grouping

section RoundTrip

def encode (s : String) : String := .ofList (percentEncode s.toList)

/-- The query of some pairs: each `key=value` in encoded form, with a `&` between them. -/
def joinedPairs (pairs : List (String × String)) : String :=
  Text.join '&' (pairs.map fun p => encode p.1 ++ "=" ++ encode p.2)

/-- Without `blanks`, the pairs that have a value. -/
def retained (blanks : Bool) (pairs : List (String × String)) : List (String × String) :=
  pairs.filter fun p => blanks || p.2 ≠ ""

theorem toList_joinedPairs (pairs : List (String × String)) :
    (joinedPairs pairs).toList =
      join '&' ((pairs.map fun p => (p.1.toList, p.2.toList)).map encodedPair) := by
  rw [joinedPairs, Text.join, String.toList_ofList, List.map_map, List.map_map]
  refine congrArg (join '&') (List.map_congr_left fun p _ => ?_)
  simp [encode, encodedPair]

theorem parse_of_dropQuestion (blanks : Bool) {query : String} {pairs : List (String × String)}
    (h : dropQuestion query.toList = (joinedPairs pairs).toList) :
    parse blanks query = grouped (retained blanks pairs) := by
  have hkept : (pairs.map fun p => (p.1.toList, p.2.toList)).filter
      (fun p => blanks || !p.2.isEmpty) =
        (retained blanks pairs).map fun p => (p.1.toList, p.2.toList) := by
    rw [retained, List.filter_map]
    refine congrArg (List.map _) (List.filter_congr fun p _ => ?_)
    rw [Bool.eq_iff_iff]
    simp [String.toList_eq_nil_iff]
  rw [← collected_eq_grouped, parse, h, toList_joinedPairs, queryPairs_join]
  simp only [hkept, List.foldl_map, String.ofList_toList]
  rfl

/-- A query that pairs were encoded to is decoded to the pairs, grouped by their keys. -/
theorem parse_joinedPairs (blanks : Bool) (pairs : List (String × String)) :
    parse blanks (joinedPairs pairs) = grouped (retained blanks pairs) ∧
      parse blanks ("?" ++ joinedPairs pairs) = grouped (retained blanks pairs) := by
  constructor
  · exact parse_of_dropQuestion blanks (by rw [toList_joinedPairs, dropQuestion_join])
  · exact parse_of_dropQuestion blanks (by rw [String.toList_append]; rfl)

end RoundTrip

section Flat

variable {fields : Assoc Value}

theorem collected_of_distinct {pairs : Assoc String} (h : pairs.Distinct) :
    collected pairs = pairs.map fun p => (p.1, .string p.2) := by
  induction pairs using List.reverseRecOn with
  | nil => rfl
  | append_singleton pairs p ih =>
    have hsplit : Assoc.keys (pairs ++ [p]) = Assoc.keys pairs ++ [p.1] := by simp [Assoc.keys]
    rw [Assoc.Distinct, hsplit, List.nodup_append] at h
    have hnew : p.1 ∉ Assoc.keys pairs := fun hmem => h.2.2 _ hmem p.1 (by simp) rfl
    have hkeys : Assoc.keys (pairs.map fun p => (p.1, Value.string p.2)) = Assoc.keys pairs := by
      simp [Assoc.keys]
    have hnone : Assoc.get? p.1 (pairs.map fun p => (p.1, Value.string p.2)) = none := by
      rwa [← Option.not_isSome_iff_eq_none, Assoc.get?_isSome_iff, hkeys]
    rw [collected_concat, ih h.1, collect, hnone, List.map_append]
    exact Assoc.put_of_notMem (by rwa [hkeys]) _

/-- The text of a scalar in a query. -/
def scalarText (v : Value) : String := .ofList (leafText v)

theorem ofFields_of_scalar (h : ∀ e ∈ fields, e.2.Scalar) :
    Leaf.ofFields fields = fields.map fun e => ⟨[e.1.toList], e.2⟩ := by
  induction fields with
  | nil => rfl
  | cons e r ih =>
    obtain ⟨name, v⟩ := e
    have hfirst : (Leaf.ofValue v).map (Leaf.under name.toList) = [⟨[name.toList], v⟩] := by
      have hv := h (name, v) (by simp)
      cases v with
      | array items => cases hv
      | object fields => cases hv
      | _ => rfl
    rw [Leaf.ofFields, hfirst, ih fun e he => h e (by simp [he])]
    rfl

/-- A flat mapping is written as the pairs of its keys and the texts of its values. -/
theorem build_flat (h : ∀ e ∈ fields, e.2.Scalar) :
    build "" fields = joinedPairs (fields.map fun e => (e.1, scalarText e.2)) := by
  have hnone (inner : List (String × Value)) (hmem : ("", .object inner) ∈ fields) :
      Leaf.ofFields inner = [] := False.elim (h ("", .object inner) hmem)
  rw [build_eq_join hnone, ← String.toList_inj, toList_joinedPairs, String.toList_ofList,
    ofFields_of_scalar h, List.map_map, List.map_map, List.map_map]
  refine congrArg (join '&') (List.map_congr_left fun e _ => ?_)
  simp [leafPiece, Leaf.key, Leaf.text, encodedPair, scalarText]

theorem parse_build_flat (hd : fields.Distinct) (h : ∀ e ∈ fields, e.2.Scalar) :
    parse true (build "" fields) = fields.map fun e => (e.1, .string (scalarText e.2)) := by
  have hdistinct : Assoc.Distinct (fields.map fun e => (e.1, scalarText e.2)) := by
    simpa [Assoc.Distinct, Assoc.keys, Function.comp_def] using hd
  have hall (pairs : List (String × String)) : retained true pairs = pairs := by simp [retained]
  rw [build_flat h, (parse_joinedPairs true _).1, hall, ← collected_eq_grouped,
    collected_of_distinct hdistinct, List.map_map]
  rfl

/-- Decoding a query undoes encoding. Pairs come back grouped by their keys, with or without those
that have no value, and with a `?` before them or none; a flat mapping comes back with the text of
each of its values. -/
theorem parse_undoes (blanks : Bool) (pairs : List (String × String)) (fields : Assoc Value) :
    parse blanks (joinedPairs pairs) = grouped (retained blanks pairs) ∧
    parse blanks ("?" ++ joinedPairs pairs) = grouped (retained blanks pairs) ∧
    (fields.Distinct → (∀ e ∈ fields, e.2.Scalar) →
      parse true (build "" fields) = fields.map fun e => (e.1, .string (scalarText e.2))) :=
  ⟨(parse_joinedPairs blanks pairs).1, (parse_joinedPairs blanks pairs).2, parse_build_flat⟩

/-- A key twice and one without a value; a mapping with the separators in its texts. -/
theorem parse_undoes_marks :
    let pairs := [("a/?", "1"), ("b", ""), ("a/?", "x&y=+")]
    let fields : Assoc Value :=
      [("", .null), ("a b", .string "é%41"), ("on", .bool true), ("n", .number (.int (-7)))]
    parse false ("?" ++ joinedPairs pairs) = [("a/?", .array [.string "1", .string "x&y=+"])] ∧
    (fields.Distinct ∧ ∀ e ∈ fields, e.2.Scalar) ∧
    parse true (build "" fields) =
      [("", .string ""), ("a b", .string "é%41"), ("on", .string "1"), ("n", .string "-7")] := by
  intro pairs fields
  have hd : fields.Distinct := by unfold Assoc.Distinct; decide
  have hs : ∀ e ∈ fields, e.2.Scalar := by simp [fields, Json.Value.Scalar]
  obtain ⟨-, hpairs, hfields⟩ := parse_undoes false pairs fields
  exact ⟨hpairs.trans (by decide +kernel), ⟨hd, hs⟩, (hfields hd hs).trans (by decide +kernel)⟩

end Flat

end Query
end RestShell
