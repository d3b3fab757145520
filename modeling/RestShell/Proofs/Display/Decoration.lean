import RestShell.Display.Render
import RestShell.Proofs.Json.Characters

/-! Colours as decoration. A terminal takes the sequences out of a text, obeys them and shows the
rest. Nothing in the text of a value begins a sequence, so of a coloured text it shows just the
plain one, and the sequences it obeys are a colour before every token and a reset behind it. -/

namespace RestShell

open Json

namespace Ansi

/-- The character that begins a sequence. -/
def esc : Char := '\x1b'

/-- A character that ends the parameters of a sequence. -/
def isFinal (c : Char) : Bool := 0x40 ≤ c.toNat && c.toNat ≤ 0x7E

/-- What a terminal finds in a text. -/
inductive Event where
  | shown (c : Char)
  | sequence (parameters : List Char) (final : Char)
deriving DecidableEq, Repr

/-- Where a terminal is: in the text, behind an escape character, or in the parameters of a
sequence, with those that it has met. -/
inductive State where
  | text
  | escaped
  | inside (parameters : List Char)

/-- The events of a text. An escape character before anything but `[` makes a sequence of two
characters, which has no parameters. -/
def events : State → List Char → List Event
  | _, [] => []
  | .text, c :: r => if c = esc then events .escaped r else .shown c :: events .text r
  | .escaped, c :: r => if c = '[' then events (.inside []) r else .sequence [] c :: events .text r
  | .inside ps, c :: r =>
    if isFinal c then .sequence ps c :: events .text r else events (.inside (ps ++ [c])) r

def Event.char? : Event → Option Char
  | .shown c => some c
  | .sequence _ _ => none

/-- The text without its sequences. -/
def strip (s : String) : String := .ofList ((events .text s.toList).filterMap Event.char?)

def isReset (parameters : List Char) : Bool := parameters == [] || parameters == ['0']

/-- The attributes in force behind an event: a reset clears them, other parameters are added. -/
def Event.pen (pen : List (List Char)) : Event → List (List Char)
  | .shown _ => pen
  | .sequence ps final =>
    if final = 'm' then (if isReset ps then [] else pen ++ [ps]) else pen

/-- The attributes in force at the end of a text. -/
def pen (s : String) : List (List Char) := (events .text s.toList).foldl Event.pen []

section Events
variable {cs r : List Char}

theorem events_append (h : esc ∉ cs) (r : List Char) :
    events .text (cs ++ r) = cs.map .shown ++ events .text r := by
  induction cs with
  | nil => rfl
  | cons c t ih =>
    obtain ⟨hc, ht⟩ := not_or.1 (mt List.mem_cons.2 h)
    rw [List.cons_append, events, if_neg (Ne.symm hc), ih ht]
    rfl

theorem events_inside (h : ∀ c ∈ cs, isFinal c = false) (ps r : List Char) :
    events (.inside ps) (cs ++ 'm' :: r) = .sequence (ps ++ cs) 'm' :: events .text r := by
  induction cs generalizing ps with
  | nil =>
    rw [List.nil_append, events, if_pos (by decide), List.append_nil]
  | cons c t ih =>
    obtain ⟨hc, ht⟩ := List.forall_mem_cons.1 h
    rw [List.cons_append, events, hc, if_neg (by decide), ih ht, List.append_assoc]
    rfl

theorem notFinal_of_all (h : (cs.all fun c => !isFinal c) = true) :
    ∀ c ∈ cs, isFinal c = false := by
  simpa using h

/-- A sequence is one event. -/
theorem events_sequence {attributes : String} (h : ∀ c ∈ attributes.toList, isFinal c = false)
    (r : List Char) :
    events .text ((sequence attributes).toList ++ r) =
      .sequence attributes.toList 'm' :: events .text r := by
  have hlist : (sequence attributes).toList ++ r =
      esc :: '[' :: (attributes.toList ++ 'm' :: r) := by
    simp [sequence, esc]
  rw [hlist, events, if_pos rfl, events, if_pos rfl, events_inside h]
  rfl

theorem filterMap_shown (cs : List Char) : (cs.map Event.shown).filterMap Event.char? = cs := by
  rw [List.filterMap_map]
  exact List.filterMap_some

theorem foldl_pen_shown (cs : List Char) (pen : List (List Char)) :
    (cs.map Event.shown).foldl Event.pen pen = pen := by
  induction cs with
  | nil => rfl
  | cons c r ih => exact ih

end Events
end Ansi

namespace Palette

/-- The attributes of a colour, that is its sequence without the two characters before them and the
one behind them. -/
def attributes (p : Palette) (mark : Mark) : List Char := ((p mark).toList.drop 2).dropLast

/-- Every colour is one sequence. -/
def Lawful (p : Palette) : Prop :=
  ∀ mark, p mark = Ansi.sequence (.ofList (p.attributes mark)) ∧
    ∀ c ∈ p.attributes mark, Ansi.isFinal c = false

theorem lawful_dark : Lawful dark := by
  intro mark
  cases mark <;> exact ⟨by decide, Ansi.notFinal_of_all (by decide)⟩

theorem lawful_light : Lawful light := by
  intro mark
  cases mark <;> exact ⟨by decide, Ansi.notFinal_of_all (by decide)⟩

end Palette

namespace Piece
open Ansi

/-- A token stands between its colour and a reset. -/
def events (p : Palette) : Piece → List Event
  | .layout cs => cs.map .shown
  | .token mark cs => .sequence (p.attributes mark) 'm' :: (cs.map .shown ++ [.sequence ['0'] 'm'])

/-- No character of the piece begins a sequence. -/
def Quiet (x : Piece) : Prop := esc ∉ x.plain

instance (x : Piece) : Decidable x.Quiet := inferInstanceAs (Decidable (esc ∉ x.plain))

variable {p : Palette}

theorem events_colored (hp : p.Lawful) {x : Piece} (hx : x.Quiet) (r : List Char) :
    Ansi.events .text (x.colored p ++ r) = x.events p ++ Ansi.events .text r := by
  cases x with
  | layout cs => exact events_append hx r
  | token mark cs =>
    obtain ⟨hsequence, hfinal⟩ := hp mark
    have hreset : ∀ c ∈ "0".toList, isFinal c = false := notFinal_of_all (by decide)
    rw [colored, events, List.append_assoc, List.append_assoc, hsequence,
      events_sequence (by simpa using hfinal), events_append (show esc ∉ cs from hx), reset,
      events_sequence hreset]
    simp

theorem filterMap_events (p : Palette) (x : Piece) :
    (x.events p).filterMap Event.char? = x.plain := by
  cases x with
  | layout cs => exact filterMap_shown cs
  | token mark cs =>
    rw [events, List.filterMap_cons_none rfl, List.filterMap_append, filterMap_shown]
    exact List.append_nil cs

/-- Behind a piece nothing is in force that was not before it. -/
theorem foldl_events (p : Palette) (x : Piece) : (x.events p).foldl Event.pen [] = [] := by
  cases x with
  | layout cs => exact foldl_pen_shown cs []
  | token mark cs =>
    rw [events, List.foldl_cons, List.foldl_append, foldl_pen_shown]
    rfl

end Piece

namespace Render
variable {x : Piece} {depth : Nat}

theorem mem_itemPieces {items : List Value} (h : x ∈ itemPieces depth items) :
    x = newline depth ∨ x = punctuation ',' ∨ ∃ v ∈ items, x ∈ pieces depth v := by
  induction items with
  | nil => cases h
  | cons v r ih =>
    cases r with
    | nil => exact (List.mem_cons.1 h).imp_right fun h => .inr ⟨v, by simp, h⟩
    | cons w t =>
      simp only [itemPieces, List.cons_append, List.mem_cons, List.mem_append] at h
      rcases h with h | h | h | h
      · exact .inl h
      · exact .inr (.inr ⟨v, by simp, h⟩)
      · exact .inr (.inl h)
      · exact (ih h).imp_right (.imp_right fun ⟨u, hu, hx⟩ => ⟨u, List.mem_cons_of_mem v hu, hx⟩)

theorem mem_fieldPieces {fields : List (String × Value)} (h : x ∈ fieldPieces depth fields) :
    x = newline depth ∨ x = punctuation ',' ∨
      ∃ e ∈ fields, x ∈ fieldHead e.1 ∨ x ∈ pieces depth e.2 := by
  induction fields with
  | nil => cases h
  | cons e r ih =>
    obtain ⟨k, v⟩ := e
    cases r with
    | nil =>
      refine (List.mem_cons.1 h).imp_right fun h => .inr ⟨(k, v), by simp, ?_⟩
      exact List.mem_append.1 h
    | cons f t =>
      simp only [fieldPieces, List.cons_append, List.mem_cons, List.mem_append] at h
      rcases h with h | (h | h) | h | h
      · exact .inl h
      · exact .inr (.inr ⟨(k, v), by simp, .inl h⟩)
      · exact .inr (.inr ⟨(k, v), by simp, .inr h⟩)
      · exact .inr (.inl h)
      · exact (ih h).imp_right
          (.imp_right fun ⟨g, hg, hx⟩ => ⟨g, List.mem_cons_of_mem (k, v) hg, hx⟩)

section Quiet
open Ansi (esc)

theorem quiet_newline (depth : Nat) : (newline depth).Quiet := by
  simp [newline, Piece.Quiet, Piece.plain, esc]

theorem quiet_quote (mark : Mark) (cs : List Char) : (Piece.token mark (quote cs)).Quiet :=
  fun h => absurd (le_toNat_of_mem_quote h) (by decide)

theorem quiet_number (mark : Mark) (n : Number) : (Piece.token mark n.chars).Quiet :=
  fun h => absurd (le_toNat_of_isNumeric (Numeric.number n _ h)) (by decide)

theorem quiet_fieldHead {k : String} (h : x ∈ fieldHead k) : x.Quiet := by
  simp only [fieldHead, List.mem_cons, List.not_mem_nil, or_false] at h
  rcases h with rfl | rfl | rfl
  · exact quiet_quote _ _
  · decide
  · decide

/-- Neither the layout nor a token of a value begins a sequence. -/
theorem quiet_pieces (v : Value) (depth : Nat) : ∀ x ∈ pieces depth v, x.Quiet := by
  induction v using Value.induction generalizing depth with
  | null => simp [pieces, Value.chars, Piece.Quiet, Piece.plain, esc]
  | bool b => cases b <;> simp [pieces, Value.chars, Piece.Quiet, Piece.plain, esc]
  | number n => simpa [pieces] using quiet_number .number n
  | string s => simpa [pieces] using quiet_quote .string s.toList
  | array items ih =>
    intro x hx
    cases items with
    | nil => simp_all [pieces, Piece.Quiet, Piece.plain, esc]
    | cons v r =>
      simp only [pieces, List.cons_append, List.mem_cons, List.mem_append, List.not_mem_nil,
        or_false] at hx
      rcases hx with rfl | hx | rfl | rfl
      · decide
      · rcases mem_itemPieces hx with rfl | rfl | ⟨u, hu, hx⟩
        · exact quiet_newline _
        · decide
        · exact ih u hu _ x hx
      · exact quiet_newline _
      · decide
  | object fields ih =>
    intro x hx
    cases fields with
    | nil => simp_all [pieces, Piece.Quiet, Piece.plain, esc]
    | cons e r =>
      simp only [pieces, List.cons_append, List.mem_cons, List.mem_append, List.not_mem_nil,
        or_false] at hx
      rcases hx with rfl | hx | rfl | rfl
      · decide
      · rcases mem_fieldPieces hx with rfl | rfl | ⟨f, hf, hx | hx⟩
        · exact quiet_newline _
        · decide
        · exact quiet_fieldHead hx
        · exact ih f hf _ x hx
      · exact quiet_newline _
      · decide

end Quiet

section Rows
variable {p : Palette} {row : List Piece}

theorem events_colored (hp : p.Lawful) (h : ∀ x ∈ row, x.Quiet) :
    Ansi.events .text (row.flatMap (Piece.colored p)) = row.flatMap (Piece.events p) := by
  induction row with
  | nil => rfl
  | cons x r ih =>
    obtain ⟨hx, hr⟩ := List.forall_mem_cons.1 h
    rw [List.flatMap_cons, List.flatMap_cons, Piece.events_colored hp hx, ih hr]

theorem filterMap_events (p : Palette) (row : List Piece) :
    (row.flatMap (Piece.events p)).filterMap Ansi.Event.char? = row.flatMap Piece.plain := by
  rw [List.filterMap_flatMap]
  simp only [Piece.filterMap_events]

theorem foldl_events (p : Palette) (row : List Piece) :
    (row.flatMap (Piece.events p)).foldl Ansi.Event.pen [] = [] := by
  induction row with
  | nil => rfl
  | cons x r ih => rw [List.flatMap_cons, List.foldl_append, Piece.foldl_events, ih]

end Rows

end Render

theorem lawful_palette (invert : Bool) : (if invert then Palette.light else .dark).Lawful := by
  cases invert
  · exact Palette.lawful_dark
  · exact Palette.lawful_light

/-- Without its sequences the coloured text of a value is its plain text, which has none. The
sequences are a colour before each token and a reset behind it, and none is in force at the end. -/
theorem render_decorated (invert : Bool) (v : Value) :
    let palette := if invert then Palette.light else .dark
    let plain := render { formatted := true, color := false, invert } v
    let colored := render { formatted := true, color := true, invert } v
    Ansi.strip colored = plain ∧ Ansi.esc ∉ plain.toList ∧
    Ansi.events .text colored.toList = (Render.pieces 0 v).flatMap (Piece.events palette) ∧
    Ansi.pen colored = [] := by
  intro palette plain colored
  have hevents : Ansi.events .text colored.toList =
      (Render.pieces 0 v).flatMap (Piece.events palette) := by
    have hcolored : colored.toList = (Render.pieces 0 v).flatMap (Piece.colored palette) := by
      simp [colored, render, Render.coloredChars, palette]
    rw [hcolored]
    exact Render.events_colored (lawful_palette invert) (Render.quiet_pieces v 0)
  have hplain : plain = .ofList ((Render.pieces 0 v).flatMap Piece.plain) := rfl
  refine ⟨?_, ?_, hevents, ?_⟩
  · rw [Ansi.strip, hevents, Render.filterMap_events, hplain]
  · rw [hplain, String.toList_ofList, List.mem_flatMap]
    exact fun ⟨x, hx, hesc⟩ => Render.quiet_pieces v 0 x hx hesc
  · rw [Ansi.pen, hevents, Render.foldl_events]

end RestShell
