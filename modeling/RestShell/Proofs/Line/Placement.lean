import Mathlib.Data.List.Basic
import RestShell.Proofs.Line.Scan

/-! Where switches may stand. Words are read on from what was read before them, and a switch with a
boolean of its own commutes with whatever else a word can say. So it may stand anywhere on a line,
save where a flag before it takes it for its value. -/

namespace RestShell

/-- A switch that has a boolean to itself, and what it says. -/
inductive Switch.Marks : String → (Arguments → Arguments) → Prop where
  | invert {word : String} :
      word = "-i" ∨ word = "--invert" → Marks word ({ · with invert := true })
  | verbose {word : String} :
      word = "-v" ∨ word = "--verbose" → Marks word ({ · with verbose := true })
  | help {word : String} : word = "-h" ∨ word = "--help" → Marks word ({ · with help := true })
  | shell {word : String} : word = "-s" ∨ word = "--shell" → Marks word ({ · with shell := true })
  | insecure : Marks "--insecure" ({ · with insecure := true })
  | raw {word : String} : word = "-r" ∨ word = "--raw" → Marks word ({ · with formatted := false })

namespace Arguments
variable {data : Assoc Json.Value} {a : Arguments} {color formatted : Bool}

/-- Words are read on from what the words before them were read into, unless a flag before them
waits for its value. -/
theorem scan_append {front : List String}
    (h : ∀ flag, scan data a front ≠ .error (.grammar (.missingValue flag))) (back : List String) :
    scan data a (front ++ back) = scan data a front >>= (scan data · back) := by
  fun_induction scan data a front with
  | case1 a => rfl
  | case2 a word rest hword ih => rw [List.cons_append, scan_cons_blank hword, ih h]
  | case3 a word rest r hword ih => rw [List.cons_append, scan_cons_redirect hword, ih h]
  | case4 a word rest s hword ih => rw [List.cons_append, scan_cons_switch hword, ih h]
  | case5 a word flag hword => exact absurd rfl (h flag)
  | case6 a word flag hword value rest next ht ih =>
    rw [List.cons_append, List.cons_append, scan_cons_valued hword, ht]
    exact ih h
  | case7 a word flag hword value rest fault ht =>
    rw [List.cons_append, List.cons_append, scan_cons_valued hword, ht]
    rfl
  | case8 a word rest hword next hb ih =>
    rw [List.cons_append, scan_cons_bare hword, hb]
    exact ih h
  | case9 a word rest hword e hb =>
    rw [List.cons_append, scan_cons_bare hword, hb]
    rfl

/-- What commutes with all that a word can say. -/
structure Commutes (mark : Arguments → Arguments) : Prop where
  redirect (a : Arguments) (r : Redirect) :
    { mark a with redirect := some r } = mark { a with redirect := some r }
  turn (a : Arguments) (s : Switch) : (mark a).turn s = mark (a.turn s)
  take (a : Arguments) (flag : ValueFlag) (value : String) :
    (mark a).take flag value = (a.take flag value).map mark
  bare (data : Assoc Json.Value) (a : Arguments) (word : String) :
    (mark a).bare data word = (a.bare data word).map mark

/-- What commutes with every word commutes with reading them. -/
theorem Commutes.scan {mark : Arguments → Arguments} (h : Commutes mark) (a : Arguments)
    (words : List String) :
    scan data (mark a) words = (scan data a words).map mark := by
  fun_induction Arguments.scan data a words with
  | case1 a => rfl
  | case2 a word rest hword ih => rw [scan_cons_blank hword, ih]
  | case3 a word rest r hword ih => rw [scan_cons_redirect hword, h.redirect, ih]
  | case4 a word rest s hword ih => rw [scan_cons_switch hword, h.turn, ih]
  | case5 a word flag hword =>
    rw [scan_missing hword]
    rfl
  | case6 a word flag hword value rest next ht ih =>
    rw [scan_cons_valued hword, h.take, ht]
    exact ih
  | case7 a word flag hword value rest fault ht =>
    rw [scan_cons_valued hword, h.take, ht]
    rfl
  | case8 a word rest hword next hb ih =>
    rw [scan_cons_bare hword, h.bare, hb]
    exact ih
  | case9 a word rest hword e hb =>
    rw [scan_cons_bare hword, h.bare, hb]
    rfl

end Arguments

namespace Switch.Marks
open Arguments
variable {word : String} {mark : Arguments → Arguments}

/-- The word is a switch as it stands. -/
theorem switch (h : Marks word mark) :
    ∃ s, unbundle word = [word] ∧ Item.ofWord word = .switch s ∧ ∀ a, turn a s = mark a := by
  cases h with
  | invert hword | verbose hword | help hword | shell hword | raw hword =>
    rcases hword with rfl | rfl <;> exact ⟨_, rfl, rfl, fun _ => rfl⟩
  | insecure => exact ⟨_, rfl, rfl, fun _ => rfl⟩

theorem commutes (h : Marks word mark) : Commutes mark where
  redirect a r := by cases h <;> rfl
  turn a s := by cases h <;> cases s <;> rfl
  take a flag value := by
    cases h <;> cases flag with
    | redirect | url | extract | exclude => rfl
    | file | basic | query | header | json | capture =>
      simp only [Arguments.take]
      split <;> rfl
  bare data a word := by
    have hverb : (mark a).verb = a.verb := by cases h <;> rfl
    have hpath : (mark a).path = a.path := by cases h <;> rfl
    have hparams : (mark a).params = a.params := by cases h <;> rfl
    simp only [Arguments.bare, hverb, hpath, hparams]
    split
    · cases h <;> rfl
    · split
      · split
        · cases h <;> rfl
        · cases Parameter.add data word a.params <;> cases h <;> rfl
      · cases h <;> rfl

end Switch.Marks

namespace Arguments
variable {data : Assoc Json.Value} {color formatted : Bool}

/-- A switch that has a boolean to itself may stand anywhere: a line with it fails as the line
without it does, or is read alike but for that boolean. Only a flag before it that waits for its
value would take it for that. -/
theorem read_switch_anywhere {word : String} {mark : Arguments → Arguments}
    (hword : Switch.Marks word mark) {front : List String}
    (hfront : ∀ flag, read data color formatted front ≠ .error (.grammar (.missingValue flag)))
    (back : List String) :
    read data color formatted (front ++ [word] ++ back) =
      (read data color formatted (front ++ back)).map mark := by
  obtain ⟨s, hunbundle, hitem, hturn⟩ := hword.switch
  have hwith : (front ++ [word] ++ back).flatMap unbundle =
      front.flatMap unbundle ++ word :: back.flatMap unbundle := by
    simp [hunbundle]
  simp only [read, hwith, List.flatMap_append, scan_append hfront]
  cases scan data { color, formatted } (front.flatMap unbundle) with
  | error e => rfl
  | ok a =>
    change scan data a (word :: back.flatMap unbundle) =
      (scan data a (back.flatMap unbundle)).map mark
    rw [scan_cons_switch hitem, hturn, hword.commutes.scan]

/-- Between a bundle whose last flag has its value and a path that the same switch follows. -/
theorem read_switch_anywhere_raw :
    (Switch.Marks "--raw" ({ · with formatted := false }) ∧
      ∀ flag, read [] true true ["post", "-vQ", "a=b"] ≠
        .error (.grammar (.missingValue flag))) ∧
    read [] true true (["post", "-vQ", "a=b"] ++ ["--raw"] ++ ["/items", "-r", "n:=1"]) =
      .ok { verb := some "post", path := some "/items", params := [("n", .number (.int 1))]
            query := ["a=b"], color := true, formatted := false, verbose := true } := by
  have hword : Switch.Marks "--raw" ({ · with formatted := false }) := .raw (.inr rfl)
  have hfront : ∀ flag, read [] true true ["post", "-vQ", "a=b"] ≠
      .error (.grammar (.missingValue flag)) := by
    have hread : read [] true true ["post", "-vQ", "a=b"] =
        .ok { verb := some "post", query := ["a=b"], color := true, verbose := true } := by
      decide +kernel
    intro flag h
    rw [hread] at h
    cases h
  refine ⟨⟨hword, hfront⟩, ?_⟩
  rw [read_switch_anywhere hword hfront ["/items", "-r", "n:=1"]]
  decide +kernel

end Arguments
end RestShell
