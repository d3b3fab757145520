import Mathlib.Data.List.Forall2
import RestShell.Proofs.Address.PercentCoding
import RestShell.Proofs.Text.Pieces

/-! The query of a mapping against its leaves. Below a key that is not empty, a mapping is written
as the pairs of its leaves, one behind the other; so is one at the top, and what is joined there
has a piece for each leaf that decodes to its key and its text. Only a mapping under the empty
name is written as if it stood at the top itself: its names lose their brackets and its last pair
its `&`, and what comes out decodes to less than its leaves say. -/

namespace RestShell

open Json

/-- What is not divided further in a mapping: the names on the way to it, for an element of a list
its index as the last of them, and its value. -/
structure Leaf where
  names : List (List Char)
  value : Value

namespace Leaf

open Chars

def under (name : List Char) (l : Leaf) : Leaf := { l with names := name :: l.names }

def element (e : Value × Nat) : Leaf := ⟨[Nat.toDigits 10 e.2], e.1⟩

mutual
/-- The leaves of a value in their order. -/
def ofValue : Value → List Leaf
  | .object fields => ofFields fields
  | .array items => items.zipIdx.map element
  | .null => [⟨[], .null⟩]
  | .bool b => [⟨[], .bool b⟩]
  | .number n => [⟨[], .number n⟩]
  | .string s => [⟨[], .string s⟩]
def ofFields : List (String × Value) → List Leaf
  | [] => []
  | (name, v) :: r => (ofValue v).map (under name.toList) ++ ofFields r
end

def bracketed (name : List Char) : List Char := '[' :: name ++ [']']

/-- The first name, and each further one in brackets. -/
def key (l : Leaf) : List Char :=
  match l.names with
  | [] => []
  | name :: inner => name ++ inner.flatMap bracketed

def text (l : Leaf) : List Char := leafText l.value

/-- A piece tells a leaf: it is a key and a text with one `=` between them, and these decode to
those of the leaf. -/
def ToldBy (piece : List Char) (l : Leaf) : Prop :=
  ∃ k t, piece = k ++ '=' :: t ∧ '=' ∉ k ∧ '=' ∉ t ∧
    percentDecode (Utf8.encode k) = Utf8.encode l.key ∧
    percentDecode (Utf8.encode t) = Utf8.encode l.text

end Leaf

/-- The pieces between the `&`s of a query; an empty one has none. -/
def Chars.queryPieces (query : List Char) : List (List Char) :=
  if query = [] then [] else split '&' query

/-- A query has one piece for each leaf, and no others, in the order of the leaves. -/
def Query.Tells (query : String) (leaves : List Leaf) : Prop :=
  List.Forall₂ Leaf.ToldBy (Chars.queryPieces query.toList) leaves

namespace Chars

open Leaf (bracketed under element)

section Pairs

theorem inBrackets_eq (name : List Char) : inBrackets name = percentEncode (bracketed name) := rfl

/-- The pair of a leaf whose names stand below a key. -/
def pairBelow (key : List Char) (l : Leaf) : List Char :=
  pair (key ++ percentEncode (l.names.flatMap bracketed)) l.value

/-- The pair of a leaf of a mapping: at the top, or below a key. -/
def leafPair (top : List Char) (l : Leaf) : List Char :=
  if top = [] then pair (percentEncode l.key) l.value else pairBelow top l

theorem pairBelow_fieldKey (top name : List Char) (l : Leaf) :
    pairBelow (fieldKey top name) l = leafPair top (l.under name) := by
  unfold leafPair pairBelow fieldKey
  split
  · rw [← percentEncode_append]
    rfl
  · rw [List.append_assoc, inBrackets_eq, ← percentEncode_append]
    rfl

theorem indexedPairs_eq (key : List Char) (i : Nat) (items : List Value) :
    indexedPairs key i items = ((items.zipIdx i).map element).flatMap (pairBelow key) := by
  induction items generalizing i with
  | nil => rfl
  | cons v r ih =>
    have hfirst : pairBelow key (element (v, i)) =
        pair (key ++ inBrackets (Nat.toDigits 10 i)) v := by
      simp [pairBelow, element, inBrackets_eq]
    rw [indexedPairs, List.zipIdx_cons, List.map_cons, List.flatMap_cons, hfirst, ih]

/-- The fields of a mapping are written as the pairs of its leaves where each of their values is. -/
theorem fieldPairs_eq {top : List Char} {fields : List (String × Value)}
    (h : ∀ e ∈ fields, valuePairs (fieldKey top e.1.toList) e.2 =
      (Leaf.ofValue e.2).flatMap (pairBelow (fieldKey top e.1.toList))) :
    fieldPairs top fields = (Leaf.ofFields fields).flatMap (leafPair top) := by
  induction fields with
  | nil => rfl
  | cons e r ih =>
    obtain ⟨name, v⟩ := e
    have hfield : (Leaf.ofValue v).flatMap (pairBelow (fieldKey top name.toList)) =
        ((Leaf.ofValue v).map (under name.toList)).flatMap (leafPair top) := by
      rw [List.flatMap_map]
      exact List.flatMap_congr fun l _ => pairBelow_fieldKey top name.toList l
    rw [fieldPairs, Leaf.ofFields, List.flatMap_append, h (name, v) (by simp), hfield,
      ih fun e he => h e (by simp [he])]

theorem fieldKey_ne_nil {top : List Char} (h : top ≠ []) (name : List Char) :
    fieldKey top name ≠ [] := by
  rw [fieldKey, if_neg h]
  exact List.append_ne_nil_of_left_ne_nil h _

theorem ofValue_eq_nil {fields : List (String × Value)} (h : Leaf.ofFields fields = [])
    {e : String × Value} (he : e ∈ fields) : Leaf.ofValue e.2 = [] := by
  induction fields with
  | nil => cases he
  | cons e' r ih =>
    obtain ⟨name, v⟩ := e'
    rw [Leaf.ofFields, List.append_eq_nil_iff, List.map_eq_nil_iff] at h
    rcases List.mem_cons.1 he with rfl | he
    · exact h.1
    · exact ih h.2 he

/-- A value is written as the pairs of its leaves, but for a mapping under the empty key that has
leaves. -/
theorem valuePairs_eq {key : List Char} {v : Value}
    (h : key = [] → ∀ fields, v = .object fields → Leaf.ofFields fields = []) :
    valuePairs key v = (Leaf.ofValue v).flatMap (pairBelow key) := by
  induction v using Value.induction generalizing key with
  | null => simp [valuePairs, Leaf.ofValue, pairBelow]
  | bool b => simp [valuePairs, Leaf.ofValue, pairBelow]
  | number n => simp [valuePairs, Leaf.ofValue, pairBelow]
  | string s => simp [valuePairs, Leaf.ofValue, pairBelow]
  | array items ih => rw [valuePairs, indexedPairs_eq, Leaf.ofValue]
  | object fields ih =>
    rw [valuePairs, Leaf.ofValue]
    by_cases hkey : key = []
    · -- nothing is written: no value below has a leaf
      have hnone := h hkey fields rfl
      have hfields : fieldPairs key fields = (Leaf.ofFields fields).flatMap (leafPair key) :=
        fieldPairs_eq fun e he => ih e he fun _ inner hinner => by
          have hvalue := ofValue_eq_nil hnone he
          rwa [hinner, Leaf.ofValue] at hvalue
      rw [hfields, hnone]
      simp [closePairs]
    · have hfields : fieldPairs key fields = (Leaf.ofFields fields).flatMap (leafPair key) :=
        fieldPairs_eq fun e he => ih e he fun hnil => absurd hnil (fieldKey_ne_nil hkey _)
      have hpair : leafPair key = pairBelow key := by
        funext l
        rw [leafPair, if_neg hkey]
      rw [closePairs, if_neg (fun hc => hkey hc.1), hfields, hpair]

/-- Where no mapping with leaves stands under the empty name at the top, the fields are written as
the pairs of their leaves. -/
theorem topPairs_eq {fields : List (String × Value)}
    (h : ∀ inner, ("", .object inner) ∈ fields → Leaf.ofFields inner = []) :
    fieldPairs [] fields =
      (Leaf.ofFields fields).flatMap fun l => pair (percentEncode l.key) l.value := by
  refine fieldPairs_eq fun e he => valuePairs_eq fun hnil inner hinner => ?_
  obtain ⟨name, v⟩ := e
  have hname : name.toList = [] := by
    by_contra hne
    exact percentEncode_ne_nil hne hnil
  refine h inner ?_
  rw [← hinner, ← String.toList_eq_nil_iff.1 hname]
  exact he

end Pairs

section Joined

/-- A leaf as one piece of a query. -/
def leafPiece (l : Leaf) : List Char := percentEncode l.key ++ '=' :: percentEncode l.text

theorem toldBy_leafPiece (l : Leaf) : Leaf.ToldBy (leafPiece l) l :=
  ⟨percentEncode l.key, percentEncode l.text, rfl, notMem_percentEncode (.inr rfl) _,
    notMem_percentEncode (.inr rfl) _, percentDecode_percentEncode _, percentDecode_percentEncode _⟩

theorem notMem_leafPiece (l : Leaf) : '&' ∉ leafPiece l := by
  have hkey := notMem_percentEncode (.inl rfl) l.key
  have htext := notMem_percentEncode (.inl rfl) l.text
  simp [leafPiece, hkey, htext]

theorem flatMap_concat_sep (sep : Char) {ps : List (List Char)} (h : ps ≠ []) :
    (ps.flatMap fun p => p ++ [sep]) = join sep ps ++ [sep] := by
  induction ps with
  | nil => exact absurd rfl h
  | cons p ps ih =>
    by_cases hps : ps = []
    · simp [hps, join]
    · rw [List.flatMap_cons, ih hps, join_cons sep p hps]
      simp

theorem closePairs_concat (cs : List Char) : closePairs [] (cs ++ ['&']) = cs := by
  simp [closePairs]

/-- Pairs at the top are joined by `&`. -/
theorem closePairs_pairs (ls : List Leaf) :
    closePairs [] (ls.flatMap fun l => pair (percentEncode l.key) l.value) =
      join '&' (ls.map leafPiece) := by
  have hpair (l : Leaf) : pair (percentEncode l.key) l.value = leafPiece l ++ ['&'] := rfl
  by_cases hls : ls = []
  · simp [hls, closePairs, join]
  · have hne : ls.map leafPiece ≠ [] := by simpa using hls
    have hpieces : (ls.flatMap fun l => leafPiece l ++ ['&']) =
        (ls.map leafPiece).flatMap fun p => p ++ ['&'] := by
      rw [List.flatMap_map]
    simp only [hpair]
    rw [hpieces, flatMap_concat_sep '&' hne, closePairs_concat]

theorem queryPieces_join {ps : List (List Char)} (h : ∀ p ∈ ps, '&' ∉ p ∧ p ≠ []) :
    queryPieces (join '&' ps) = ps := by
  by_cases hps : ps = []
  · rw [hps]
    rfl
  · have hsplit := split_join hps fun p hp => (h p hp).1
    have hne : join '&' ps ≠ [] := by
      intro hnil
      rw [hnil] at hsplit
      exact (h [] (by simp [← hsplit, split])).2 rfl
    rw [queryPieces, if_neg hne, hsplit]

/-- Joined pieces of leaves tell them. -/
theorem tells_join (ls : List Leaf) :
    Query.Tells (.ofList (join '&' (ls.map leafPiece))) ls := by
  have hpieces : queryPieces (join '&' (ls.map leafPiece)) = ls.map leafPiece := by
    refine queryPieces_join fun p hp => ?_
    obtain ⟨l, -, rfl⟩ := List.mem_map.1 hp
    exact ⟨notMem_leafPiece l, by simp [leafPiece]⟩
  rw [Query.Tells, String.toList_ofList, hpieces, List.forall₂_map_left_iff, List.forall₂_same]
  exact fun l _ => toldBy_leafPiece l

end Joined

section Lengths

/-- The number of bytes that a text is decoded to. -/
def decodedLength (cs : List Char) : Nat := (percentDecode (Utf8.encode cs)).length

theorem decodedLength_append_le (a b : List Char) :
    decodedLength (a ++ b) ≤ decodedLength a + decodedLength b := by
  unfold decodedLength
  rw [Utf8.encode_append]
  exact length_percentDecode_append_le _ _

theorem decodedLength_sep {c : Char} (hc : c = '&' ∨ c = '=') (a b : List Char) :
    decodedLength (a ++ c :: b) = decodedLength a + 1 + decodedLength b := by
  have hsep : ∃ x, Separates x ∧ Utf8.encode (c :: b) = x :: Utf8.encode b := by
    rcases hc with rfl | rfl
    · exact ⟨38, separates_ampersand, rfl⟩
    · exact ⟨61, separates_equals, rfl⟩
  obtain ⟨x, hx, hencode⟩ := hsep
  unfold decodedLength
  rw [Utf8.encode_append, hencode, percentDecode_append_cons hx, List.length_append,
    List.length_cons]
  omega

theorem decodedLength_percentEncode (cs : List Char) :
    decodedLength (percentEncode cs) = (Utf8.encode cs).length := by
  rw [decodedLength, percentDecode_percentEncode]

/-- What a leaf takes in a query: its key and its text, the `=` between them and a `&`. -/
def leafLength (l : Leaf) : Nat := (Utf8.encode l.key).length + (Utf8.encode l.text).length + 2

def leafLengths : List Leaf → Nat
  | [] => 0
  | l :: ls => leafLength l + leafLengths ls

theorem leafLengths_append (a b : List Leaf) :
    leafLengths (a ++ b) = leafLengths a + leafLengths b := by
  induction a with
  | nil => simp [leafLengths]
  | cons l ls ih =>
    simp only [List.cons_append, leafLengths, ih]
    omega

theorem decodedLength_toldBy {piece : List Char} {l : Leaf} (h : Leaf.ToldBy piece l) :
    decodedLength piece + 1 = leafLength l := by
  obtain ⟨k, t, rfl, -, -, hk, ht⟩ := h
  rw [decodedLength_sep (.inr rfl), leafLength, ← hk, ← ht]
  unfold decodedLength
  omega

/-- Pieces that tell leaves are decoded to all that these take, but for the last `&`. -/
theorem decodedLength_join {ps : List (List Char)} {ls : List Leaf}
    (h : List.Forall₂ Leaf.ToldBy ps ls) (hne : ps ≠ []) :
    decodedLength (join '&' ps) + 1 = leafLengths ls := by
  induction h with
  | nil => exact absurd rfl hne
  | @cons p l ps ls hp hps ih =>
    have hlength := decodedLength_toldBy hp
    by_cases hnil : ps = []
    · subst hnil
      cases hps
      simpa [join, leafLengths] using hlength
    · have hrest := ih hnil
      rw [join_cons '&' p hnil, decodedLength_sep (.inl rfl), leafLengths]
      omega

theorem decodedLength_pair (l : Leaf) :
    decodedLength (pair (percentEncode l.key) l.value) = leafLength l := by
  have hpair : pair (percentEncode l.key) l.value =
      (percentEncode l.key ++ '=' :: percentEncode l.text) ++ '&' :: [] := rfl
  rw [hpair, decodedLength_sep (.inl rfl), decodedLength_sep (.inr rfl),
    decodedLength_percentEncode, decodedLength_percentEncode, leafLength]
  have hnil : decodedLength [] = 0 := rfl
  omega

theorem decodedLength_pairs_le (ls : List Leaf) :
    decodedLength (ls.flatMap fun l => pair (percentEncode l.key) l.value) ≤ leafLengths ls := by
  induction ls with
  | nil => exact Nat.le_refl 0
  | cons l ls ih =>
    have happend := decodedLength_append_le (pair (percentEncode l.key) l.value)
      (ls.flatMap fun l => pair (percentEncode l.key) l.value)
    rw [decodedLength_pair] at happend
    rw [List.flatMap_cons, leafLengths]
    omega

end Lengths
section Losses

variable {fields inner : List (String × Value)} {ls : List Leaf}

theorem names_ne_nil {l : Leaf} (h : l ∈ Leaf.ofFields fields) : l.names ≠ [] := by
  induction fields with
  | nil => cases h
  | cons e r ih =>
    obtain ⟨name, v⟩ := e
    rw [Leaf.ofFields, List.mem_append, List.mem_map] at h
    rcases h with ⟨l', -, rfl⟩ | h
    · exact List.cons_ne_nil _ _
    · exact ih h

/-- Under the empty name, the name behind it takes two brackets. -/
theorem leafLength_under_nil {l : Leaf} (h : l.names ≠ []) :
    leafLength (l.under []) = leafLength l + 2 := by
  obtain ⟨name, names, hnames⟩ := List.exists_cons_of_ne_nil h
  have hbracketed : (Utf8.encode (bracketed name)).length = (Utf8.encode name).length + 2 := by
    unfold bracketed
    rw [Utf8.encode_append, List.length_append]
    rfl
  have hunder : (l.under []).key = bracketed name ++ names.flatMap bracketed := by
    rw [Leaf.key, Leaf.under, hnames]
    rfl
  have hkey : l.key = name ++ names.flatMap bracketed := by rw [Leaf.key, hnames]
  have htext : (l.under []).text = l.text := rfl
  unfold leafLength
  rw [hunder, hkey, htext, Utf8.encode_append, Utf8.encode_append, List.length_append,
    List.length_append, hbracketed]
  omega

theorem leafLengths_under_nil (h : ∀ l ∈ ls, l.names ≠ []) :
    leafLengths (ls.map (under [])) = leafLengths ls + 2 * ls.length := by
  induction ls with
  | nil => rfl
  | cons l ls ih =>
    have hfirst := leafLength_under_nil (h l (by simp))
    have hrest := ih fun l hl => h l (by simp [hl])
    rw [List.map_cons, leafLengths, leafLengths, List.length_cons]
    omega

theorem decodedLength_closePairs_le (cs : List Char) :
    decodedLength (closePairs [] cs) ≤ decodedLength cs := by
  unfold closePairs
  split
  · rename_i h
    obtain ⟨r, rfl⟩ := List.getLast?_eq_some_iff.1 h.2
    rw [List.dropLast_concat, decodedLength_sep (.inl rfl)]
    omega
  · exact Nat.le_refl _

/-- A mapping under the empty name falls short of its leaves by the brackets. -/
theorem decodedLength_unnamed_le
    (h : decodedLength (fieldPairs [] inner) ≤ leafLengths (Leaf.ofFields inner)) :
    decodedLength (valuePairs (percentEncode []) (.object inner)) +
        2 * (Leaf.ofFields inner).length ≤
      leafLengths ((Leaf.ofValue (.object inner)).map (under [])) := by
  have hclose := decodedLength_closePairs_le (fieldPairs [] inner)
  rw [percentEncode_nil, valuePairs, Leaf.ofValue,
    leafLengths_under_nil fun l hl => names_ne_nil hl]
  omega

theorem decodedLength_valuePairs_le (name : List Char) {v : Value}
    (h : ∀ inner, v = .object inner →
      decodedLength (fieldPairs [] inner) ≤ leafLengths (Leaf.ofFields inner)) :
    decodedLength (valuePairs (percentEncode name) v) ≤
      leafLengths ((Leaf.ofValue v).map (under name)) := by
  by_cases hlost : name = [] ∧ ∃ inner, v = .object inner
  · obtain ⟨rfl, inner, rfl⟩ := hlost
    have hunnamed := decodedLength_unnamed_le (h inner rfl)
    omega
  · have hpairs : valuePairs (percentEncode name) v =
        ((Leaf.ofValue v).map (under name)).flatMap fun l =>
          pair (percentEncode l.key) l.value := by
      rw [valuePairs_eq, List.flatMap_map]
      · exact List.flatMap_congr fun l _ => pairBelow_fieldKey [] name l
      · intro hnil inner hinner
        refine absurd ⟨?_, inner, hinner⟩ hlost
        by_contra hne
        exact percentEncode_ne_nil hne hnil
    rw [hpairs]
    exact decodedLength_pairs_le _

theorem decodedLength_fieldPairs_cons_le (name : String) (v : Value)
    (r : List (String × Value)) :
    decodedLength (fieldPairs [] ((name, v) :: r)) ≤
      decodedLength (valuePairs (percentEncode name.toList) v) + decodedLength (fieldPairs [] r) :=
  decodedLength_append_le _ _

/-- The bound for the fields of a mapping, from the bound for the mappings among them. -/
theorem decodedLength_fieldPairs_le_of
    (h : ∀ e ∈ fields, ∀ inner, e.2 = .object inner →
      decodedLength (fieldPairs [] inner) ≤ leafLengths (Leaf.ofFields inner)) :
    decodedLength (fieldPairs [] fields) ≤ leafLengths (Leaf.ofFields fields) := by
  induction fields with
  | nil => exact Nat.le_refl 0
  | cons e r ih =>
    obtain ⟨name, v⟩ := e
    have hcons := decodedLength_fieldPairs_cons_le name v r
    have hvalue := decodedLength_valuePairs_le name.toList (v := v) (h (name, v) (by simp))
    have hrest := ih fun e he => h e (by simp [he])
    rw [Leaf.ofFields, leafLengths_append]
    omega

/-- No fields are decoded to more than their leaves say. -/
theorem decodedLength_fieldPairs_le (fields : List (String × Value)) :
    decodedLength (fieldPairs [] fields) ≤ leafLengths (Leaf.ofFields fields) := by
  have hvalue (v : Value) : ∀ inner, v = .object inner →
      decodedLength (fieldPairs [] inner) ≤ leafLengths (Leaf.ofFields inner) := by
    induction v using Value.induction with
    | object fields ih =>
      rintro inner ⟨⟩
      exact decodedLength_fieldPairs_le_of ih
    | null => nofun
    | bool b => nofun
    | number n => nofun
    | string s => nofun
    | array items ih => nofun
  exact decodedLength_fieldPairs_le_of fun e _ => hvalue e.2

/-- Fields are decoded to less than their leaves say where a mapping with leaves stands under the
empty name. -/
theorem decodedLength_lost_le (hmem : ("", .object inner) ∈ fields)
    (hne : Leaf.ofFields inner ≠ []) :
    decodedLength (fieldPairs [] fields) + 2 ≤ leafLengths (Leaf.ofFields fields) := by
  induction fields with
  | nil => cases hmem
  | cons e r ih =>
    obtain ⟨name, v⟩ := e
    have hcons := decodedLength_fieldPairs_cons_le name v r
    rw [Leaf.ofFields, leafLengths_append]
    rcases List.mem_cons.1 hmem with he | hmem
    · cases he
      have hunnamed := decodedLength_unnamed_le (decodedLength_fieldPairs_le inner)
      have hlength := List.length_pos_iff.2 hne
      have hrest := decodedLength_fieldPairs_le r
      rw [String.toList_empty] at hcons ⊢
      omega
    · have hvalue := decodedLength_valuePairs_le name.toList
        (v := v) fun inner _ => decodedLength_fieldPairs_le inner
      have hrest := ih hmem
      omega

end Losses
end Chars

namespace Query

open Chars

theorem build_eq_join {fields : List (String × Value)}
    (h : ∀ inner, ("", .object inner) ∈ fields → Leaf.ofFields inner = []) :
    build "" fields = .ofList (join '&' ((Leaf.ofFields fields).map leafPiece)) := by
  rw [build, String.toList_empty, topPairs_eq h, closePairs_pairs]

theorem tells_build {fields : List (String × Value)}
    (h : ∀ inner, ("", .object inner) ∈ fields → Leaf.ofFields inner = []) :
    Tells (build "" fields) (Leaf.ofFields fields) := by
  rw [build_eq_join h]
  exact tells_join _

theorem not_tells_build {fields inner : List (String × Value)}
    (hmem : ("", .object inner) ∈ fields) (hne : Leaf.ofFields inner ≠ []) :
    ¬ Tells (build "" fields) (Leaf.ofFields fields) := by
  intro h
  have hlost := decodedLength_lost_le hmem hne
  have hclose := decodedLength_closePairs_le (fieldPairs [] fields)
  rw [Tells, build, String.toList_ofList, String.toList_empty, queryPieces] at h
  split at h
  · have hleaves := List.forall₂_nil_left_iff.1 h
    rw [hleaves, leafLengths] at hlost
    omega
  · have hlength := decodedLength_join h (split_ne_nil '&' _)
    rw [join_split] at hlength
    omega

/-- The query of a mapping has one piece for each of its leaves, which decodes to the key and the
text of the leaf, and nothing else, unless a mapping with leaves stands under the empty name. -/
theorem build_tells_iff (fields : List (String × Value)) :
    Tells (build "" fields) (Leaf.ofFields fields) ↔
      ∀ inner, ("", .object inner) ∈ fields → Leaf.ofFields inner = [] := by
  refine ⟨fun h inner hmem => ?_, tells_build⟩
  by_contra hne
  exact not_tells_build hmem hne h

/-- A mapping under the empty name runs into the pair behind it. -/
theorem build_runs_together :
    let fields := [("", .object [("a", .number (.int 1))]), ("b", .number (.int 2))]
    build "" fields = "a=1b=2" ∧
    (Leaf.ofFields fields).map (fun l => (String.ofList l.key, String.ofList l.text)) =
      [("[a]", "1"), ("b", "2")] ∧
    ¬ Tells (build "" fields) (Leaf.ofFields fields) := by
  intro fields
  refine ⟨by decide +kernel, by decide +kernel, ?_⟩
  have hmem : ("", .object [("a", .number (.int 1))]) ∈ fields := by simp [fields]
  exact not_tells_build hmem (by simp [Leaf.ofFields, Leaf.ofValue])

end Query
end RestShell
