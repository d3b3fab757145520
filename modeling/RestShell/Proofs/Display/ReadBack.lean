import RestShell.Display.Render
import RestShell.Proofs.Json.Mappings
import RestShell.Proofs.Json.Positions
import RestShell.Proofs.Json.ReadBack

/-! Formatted text that is read back. Behind every value of the layout stands a comma, a new line
or nothing, none of which goes on with a number; and the blanks before a value are skipped. -/

namespace RestShell

open Json Json.Value

namespace Render

/-- The text of a value whose first line stands at `depth`. -/
def written (depth : Nat) (v : Value) : List Char := (pieces depth v).flatMap Piece.plain

def writtenItems (depth : Nat) (items : List Value) : List Char :=
  (itemPieces depth items).flatMap Piece.plain

def writtenFields (depth : Nat) (fields : List (String × Value)) : List Char :=
  (fieldPieces depth fields).flatMap Piece.plain

/-- A new line and its indentation. -/
def margin (depth : Nat) : List Char := (newline depth).plain

section Layout
variable (depth : Nat) (k : String) (v : Value)

theorem written_array (r : List Value) : written depth (.array (v :: r)) =
    '[' :: (writtenItems (depth + 1) (v :: r) ++ (margin depth ++ [']'])) := by
  simp [written, writtenItems, margin, pieces, punctuation, Piece.plain]

theorem written_object (e : String × Value) (r : List (String × Value)) :
    written depth (.object (e :: r)) =
      '{' :: (writtenFields (depth + 1) (e :: r) ++ (margin depth ++ ['}'])) := by
  simp [written, writtenFields, margin, pieces, punctuation, Piece.plain]

theorem writtenItems_last : writtenItems depth [v] = margin depth ++ written depth v := by
  simp [writtenItems, itemPieces, margin, written]

theorem writtenItems_more (w : Value) (r : List Value) : writtenItems depth (v :: w :: r) =
    margin depth ++ (written depth v ++ ',' :: writtenItems depth (w :: r)) := by
  simp [writtenItems, itemPieces, margin, written, punctuation, Piece.plain]

theorem writtenFields_last :
    writtenFields depth [(k, v)] = margin depth ++ entry k (written depth v) := by
  simp [writtenFields, fieldPieces, fieldHead, entry, margin, written, punctuation, Piece.plain]

theorem writtenFields_more (e : String × Value) (r : List (String × Value)) :
    writtenFields depth ((k, v) :: e :: r) =
      margin depth ++ (entry k (written depth v) ++ ',' :: writtenFields depth (e :: r)) := by
  simp [writtenFields, fieldPieces, fieldHead, entry, margin, written, punctuation, Piece.plain]

theorem skip_margin (cs : List Char) : skip (margin depth ++ cs) = skip cs := by
  have hblank : ∀ c ∈ margin depth, isSpace c = true := by
    intro c hc
    simp only [margin, newline, Piece.plain, List.mem_cons, List.mem_replicate] at hc
    rcases hc with rfl | ⟨-, rfl⟩ <;> rfl
  exact List.dropWhile_append_of_pos hblank

theorem ends_margin (cs : List Char) : Ends (margin depth ++ cs) := by
  intro c hc
  cases hc
  decide

end Layout

section Reading
variable {k depth : Nat} {tail t : List Char}

/-- The text of a value at some depth is read as this value. -/
def ReadsAs (k depth : Nat) (v : Value) : Prop :=
  ∀ rest, Ends rest → readValue k (written depth v ++ rest) = .ok (v, rest)

theorem ends_comma (cs : List Char) : Ends (',' :: cs) := by
  intro c hc
  cases hc
  decide

theorem readItems_written {items : List Value} (hne : items ≠ [])
    (hread : ∀ v ∈ items, ReadsAs k depth v) (hends : Ends tail) (htail : skip tail = ']' :: t)
    {fuel : Nat} (hfuel : (skip (writtenItems depth items ++ tail)).length < fuel) :
    readItems (readValue k) fuel (skip (writtenItems depth items ++ tail)) = .ok (items, t) := by
  induction items generalizing fuel with
  | nil => exact absurd rfl hne
  | cons v r ih =>
    obtain ⟨hv, hr⟩ := List.forall_mem_cons.1 hread
    obtain ⟨fuel, rfl⟩ := Nat.exists_eq_succ_of_ne_zero (Nat.ne_zero_of_lt hfuel)
    cases r with
    | nil =>
      rw [writtenItems_last, List.append_assoc, skip_margin]
      exact readItems_last (hv tail hends) htail
    | cons w r =>
      rw [writtenItems_more, List.append_assoc, skip_margin, List.append_assoc,
        List.cons_append] at hfuel ⊢
      have hshorter := length_skip_lt (c := ',') rfl (written depth v)
        (writtenItems depth (w :: r) ++ tail)
      exact readItems_more (hv _ (ends_comma _)) rfl
        (ih (List.cons_ne_nil w r) hr (Nat.lt_of_lt_of_le hshorter (Nat.le_of_lt_succ hfuel)))

theorem readFields_written {fields : List (String × Value)} (hne : fields ≠ [])
    (hread : ∀ e ∈ fields, ReadsAs k depth e.2) (hends : Ends tail) (htail : skip tail = '}' :: t)
    {fuel : Nat} (hfuel : (skip (writtenFields depth fields ++ tail)).length < fuel) :
    readFields (readValue k) fuel (skip (writtenFields depth fields ++ tail)) =
      .ok (fields, t) := by
  induction fields generalizing fuel with
  | nil => exact absurd rfl hne
  | cons e r ih =>
    obtain ⟨key, v⟩ := e
    obtain ⟨hv, hr⟩ := List.forall_mem_cons.1 hread
    obtain ⟨fuel, rfl⟩ := Nat.exists_eq_succ_of_ne_zero (Nat.ne_zero_of_lt hfuel)
    cases r with
    | nil =>
      rw [writtenFields_last, List.append_assoc, skip_margin, entry_append, skip_entry]
      exact readFields_last (hv tail hends) htail
    | cons f r =>
      rw [writtenFields_more, List.append_assoc, skip_margin, List.append_assoc,
        List.cons_append] at hfuel ⊢
      have hshorter := length_skip_lt (c := ',') rfl (entry key (written depth v))
        (writtenFields depth (f :: r) ++ tail)
      rw [entry_append, skip_entry]
      exact readFields_more (hv _ (ends_comma _)) rfl
        (ih (List.cons_ne_nil f r) hr (Nat.lt_of_lt_of_le hshorter (Nat.le_of_lt_succ hfuel)))

theorem readsAs_array {items : List Value} (h : ∀ v ∈ items, ReadsAs k (depth + 1) v) :
    ReadsAs (k + 1) depth (.array items) := by
  intro rest _
  cases items with
  | nil => rfl
  | cons v r =>
    have htail : skip (margin depth ++ ']' :: rest) = ']' :: rest := skip_margin _ _
    rw [written_array, List.cons_append, List.append_assoc, List.append_assoc]
    exact readValue_items (readItems_written (List.cons_ne_nil v r) h (ends_margin _ _) htail
      (Nat.lt_succ_self _))

theorem readsAs_object {fields : List (String × Value)} (hdistinct : Assoc.Distinct fields)
    (h : ∀ e ∈ fields, ReadsAs k (depth + 1) e.2) : ReadsAs (k + 1) depth (.object fields) := by
  intro rest _
  cases fields with
  | nil => rfl
  | cons e r =>
    have htail : skip (margin depth ++ '}' :: rest) = '}' :: rest := skip_margin _ _
    have hread := readValue_fields (readFields_written (List.cons_ne_nil e r) h
      (ends_margin depth _) htail (Nat.lt_succ_self _))
    rw [Assoc.merge_nil_of_distinct hdistinct] at hread
    rw [written_object, List.cons_append, List.append_assoc, List.append_assoc]
    exact hread

/-- Every value of the layout is read as it is. -/
theorem readsAs {v : Value} (hdistinct : v.Distinct) (hlegible : v.Legible) (depth : Nat) {k : Nat}
    (hk : v.depth ≤ k) : ReadsAs k depth v := by
  induction v using Value.induction generalizing depth k with
  | null => exact fun rest _ => by cases k <;> rfl
  | bool b => exact fun rest _ => by cases k <;> cases b <;> rfl
  | number n =>
    cases hlegible with
    | number hn =>
      intro rest hrest
      rw [written, pieces, List.flatMap_singleton]
      exact readValue_number hn k hrest
  | string s =>
    intro rest _
    rw [written, pieces, List.flatMap_singleton]
    exact readValue_quote k s rest
  | array items ih =>
    cases hdistinct with
    | array hdistinct =>
    cases hlegible with
    | array hlegible =>
    cases k with
    | zero => cases hk
    | succ k =>
      refine readsAs_array fun v hv => ih v hv (hdistinct v hv) (hlegible v hv) (depth + 1) ?_
      exact Nat.le_trans (depth_le_itemsDepth hv) (Nat.le_of_succ_le_succ hk)
  | object fields ih =>
    cases hdistinct with
    | object hkeys hdistinct =>
    cases hlegible with
    | object hlegible =>
    cases k with
    | zero => cases hk
    | succ k =>
      refine readsAs_object hkeys fun e he =>
        ih e he (hdistinct e he) (hlegible e he) (depth + 1) ?_
      exact Nat.le_trans (depth_le_fieldsDepth he) (Nat.le_of_succ_le_succ hk)

/-- The whole layout is read as the value. -/
theorem readChars?_plainChars {v : Value} (hdistinct : v.Distinct) (hlegible : v.Legible)
    (hdepth : v.depth ≤ depthLimit) : readChars? (plainChars v) = .ok v := by
  have hread := readsAs hdistinct hlegible 0 hdepth [] nofun
  rw [List.append_nil] at hread
  change readValue depthLimit (plainChars v) = _ at hread
  rw [readChars?, hread]
  rfl

end Reading

end Render

open Render in
/-- The formatted text of a value is read as this value, its keys in their order. -/
theorem read_render (v : Value) (hdistinct : v.Distinct) (hlegible : v.Legible)
    (hdepth : v.depth ≤ depthLimit) (invert : Bool) :
    Json.read (render { formatted := true, color := false, invert } v) = .ok v := by
  have hplain : render { formatted := true, color := false, invert } v = .ofList (plainChars v) :=
    rfl
  rw [hplain, Json.read, String.toList_ofList, readChars?_plainChars hdistinct hlegible hdepth]
  rfl

/-- Mappings and lists within each other, some of them empty; marks in a key and in a string, and
keys that are not in ascending order. -/
theorem read_render_nested :
    let v : Value := .object [("b\"\n", .number (.int (-1))), ("a", .array [.bool true, .null,
      .object [], .object [("", .string "é\t\x7d],")], .array []]),
      ("0", .number (.float ⟨0x3FF8000000000000⟩))]
    v.Distinct ∧ v.Legible ∧ v.depth ≤ depthLimit ∧ Json.read (render {} v) = .ok v := by
  intro v
  have hdistinct : v.Distinct := by
    have hone : Value.Distinct (.object [("", .string "é\t\x7d],")]) :=
      .object (List.nodup_singleton _) (List.forall_mem_singleton.2 (.string _))
    refine .object (by unfold Assoc.Distinct; decide) ?_
    simp only [List.forall_mem_cons]
    refine ⟨.number _, .array ?_, .number _, nofun⟩
    simp only [List.forall_mem_cons]
    exact ⟨.bool _, .null, .object List.nodup_nil nofun, hone, .array nofun, nofun⟩
  have hfraction : Json.read (Value.number (.float ⟨0x3FF8000000000000⟩)).text =
      .ok (.number (.float ⟨0x3FF8000000000000⟩)) := by decide +kernel
  have hlegible : v.Legible := by
    have hone : Value.Legible (.object [("", .string "é\t\x7d],")]) :=
      .object (List.forall_mem_singleton.2 (.string _))
    refine .object ?_
    simp only [List.forall_mem_cons]
    refine ⟨.number (read_int (by decide) (by decide)), .array ?_, .number hfraction, nofun⟩
    simp only [List.forall_mem_cons]
    exact ⟨.bool _, .null, .object nofun, hone, .array nofun, nofun⟩
  have hdepth : v.depth ≤ depthLimit := by decide
  exact ⟨hdistinct, hlegible, hdepth, read_render v hdistinct hlegible hdepth false⟩

end RestShell
