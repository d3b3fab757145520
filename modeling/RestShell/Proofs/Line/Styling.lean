import RestShell.Proofs.Line.Scan

/-! Flags that say how things are shown. A line with more of them, wherever a flag may stand, is
refused for the same reason as without, or is read into arguments that differ in what such flags
say and in nothing else. -/

namespace RestShell

/-- Two results are the same failure, or successes with related values. -/
inductive Matches {ε α : Type} (R : α → α → Prop) : Except ε α → Except ε α → Prop where
  | ok {x y : α} : R x y → Matches R (.ok x) (.ok y)
  | error (e : ε) : Matches R (.error e) (.error e)

namespace Matches
variable {ε α β : Type} {R : α → α → Prop} {Q : β → β → Prop} {x y : Except ε α}

theorem exists_or (h : Matches R x y) :
    (∃ a b, x = .ok a ∧ y = .ok b ∧ R a b) ∨ ∃ e, x = .error e ∧ y = .error e := by
  cases h with
  | @ok a b hab => exact .inl ⟨a, b, rfl, rfl, hab⟩
  | error e => exact .inr ⟨e, rfl, rfl⟩

theorem of_eq (hR : ∀ x, R x x) (h : x = y) : Matches R x y := by
  rw [h]
  cases y with
  | ok y => exact .ok (hR y)
  | error e => exact .error e

theorem bind {f g : α → Except ε β} (h : Matches R x y)
    (hfg : ∀ {a b}, R a b → Matches Q (f a) (g b)) : Matches Q (x >>= f) (y >>= g) := by
  cases h with
  | ok hxy => exact hfg hxy
  | error e => exact .error e

theorem mapError {ε' : Type} (f : ε → ε') (h : Matches R x y) :
    Matches R (x.mapError f) (y.mapError f) := by
  cases h with
  | ok hxy => exact .ok hxy
  | error e => exact .error (f e)

end Matches

/-- A switch that says how things are shown. -/
def Switch.Styles (s : Switch) : Prop :=
  s = .color ∨ s = .noColor ∨ s = .raw ∨ s = .invert ∨ s = .verbose

namespace Arguments
variable {data : Assoc Json.Value} {a b : Arguments}

/-- All but what says how things are shown is the same. -/
def Restyled (a b : Arguments) : Prop :=
  ∃ color formatted invert verbose, b = { a with color, formatted, invert, verbose }

theorem Restyled.trans {c : Arguments} (h : Restyled a b) (h' : Restyled b c) : Restyled a c := by
  obtain ⟨_, _, _, _, rfl⟩ := h
  obtain ⟨_, _, _, _, rfl⟩ := h'
  exact ⟨_, _, _, _, rfl⟩

/-- Unbundled words with more switches that say how things are shown. A switch is added where a
flag may stand, not between a flag and its value. -/
inductive Dressed : List String → List String → Prop where
  | nil : Dressed [] []
  | add {word : String} {s : Switch} {words dressed : List String} : Item.ofWord word = .switch s →
      s.Styles → Dressed words dressed → Dressed words (word :: dressed)
  | word {word : String} {words dressed : List String} :
      (∀ flag, Item.ofWord word ≠ .valued flag) → Dressed words dressed →
      Dressed (word :: words) (word :: dressed)
  | valued {word : String} {flag : ValueFlag} (value : String) {words dressed : List String} :
      Item.ofWord word = .valued flag → Dressed words dressed →
      Dressed (word :: value :: words) (word :: value :: dressed)
  | missing {word : String} {flag : ValueFlag} : Item.ofWord word = .valued flag →
      Dressed [word] [word]

theorem Dressed.refl (words : List String) : Dressed words words := by
  fun_induction bareWords words with
  | case1 => exact .nil
  | case2 word rest hword ih => exact .word (by simp [hword]) ih
  | case3 word flag hword => exact .missing hword
  | case4 word flag hword value rest ih => exact .valued value hword ih
  | case5 word rest hword ih => exact .word (by simp [hword]) ih
  | case6 word rest r hword ih => exact .word (by simp [hword]) ih
  | case7 word rest s hword ih => exact .word (by simp [hword]) ih

theorem turn_restyles {s : Switch} (h : s.Styles) (a : Arguments) : Restyled a (a.turn s) := by
  rcases h with rfl | rfl | rfl | rfl | rfl <;> exact ⟨_, _, _, _, rfl⟩

theorem Restyled.turn (h : Restyled a b) (s : Switch) : Restyled (a.turn s) (b.turn s) := by
  obtain ⟨_, _, _, _, rfl⟩ := h
  cases s <;> exact ⟨_, _, _, _, rfl⟩

theorem Restyled.take (h : Restyled a b) (flag : ValueFlag) (value : String) :
    Matches Restyled (a.take flag value) (b.take flag value) := by
  obtain ⟨color, formatted, invert, verbose, rfl⟩ := h
  unfold Arguments.take
  cases flag with
  | redirect | url | extract | exclude => exact .ok ⟨_, _, _, _, rfl⟩
  | file =>
    dsimp only
    split <;> exact .error _
  | basic | query | header | json | capture =>
    dsimp only
    split <;> first | exact .error _ | exact .ok ⟨color, formatted, invert, verbose, rfl⟩

theorem Restyled.bare (h : Restyled a b) (word : String) :
    Matches Restyled (a.bare data word) (b.bare data word) := by
  obtain ⟨color, formatted, invert, verbose, rfl⟩ := h
  unfold Arguments.bare
  dsimp only
  split
  · exact .ok ⟨color, formatted, invert, verbose, rfl⟩
  · split
    · split
      · exact .ok ⟨color, formatted, invert, verbose, rfl⟩
      · cases Parameter.add data word a.params with
        | ok params => exact .ok ⟨color, formatted, invert, verbose, rfl⟩
        | error e => exact .error e
    · exact .ok ⟨color, formatted, invert, verbose, rfl⟩

/-- More switches that say how things are shown change nothing else of what is read. -/
theorem scan_dressed {words dressed : List String} (h : Dressed words dressed)
    (hab : Restyled a b) : Matches Restyled (scan data a words) (scan data b dressed) := by
  -- on how the words are dressed; what was read so far differs in style, and each word keeps that
  induction h generalizing a b with
  | nil => exact .ok hab
  | @add word s words dressed hword hs hd ih =>
    rw [scan_cons_switch hword]
    exact ih (hab.trans (turn_restyles hs b))
  | @word word words dressed hword hd ih =>
    cases hitem : Item.ofWord word with
    | blank =>
      rw [scan_cons_blank hitem, scan_cons_blank hitem]
      exact ih hab
    | redirect r =>
      rw [scan_cons_redirect hitem, scan_cons_redirect hitem]
      obtain ⟨_, _, _, _, rfl⟩ := hab
      exact ih ⟨_, _, _, _, rfl⟩
    | switch s =>
      rw [scan_cons_switch hitem, scan_cons_switch hitem]
      exact ih (hab.turn s)
    | valued flag => exact absurd hitem (hword flag)
    | bare =>
      rw [scan_cons_bare hitem, scan_cons_bare hitem]
      exact (hab.bare word).bind fun hab' => ih hab'
  | @valued word flag value words dressed hword hd ih =>
    rw [scan_cons_valued hword, scan_cons_valued hword]
    exact ((hab.take flag value).mapError .grammar).bind fun hab' => ih hab'
  | missing hword =>
    rw [scan_missing hword, scan_missing hword]
    exact .error _

/-- The words of a command of the shell are read alike in any session, but for how things are
shown. -/
theorem read_command {color formatted color' formatted' : Bool} {words : List String}
    {verb : String} (h : read data color formatted words = .ok a) (hv : a.verb = some verb)
    (hh : isHttpVerb verb = false) (data' : Assoc Json.Value) :
    ∃ b, read data' color' formatted' words = .ok b ∧ Restyled a b := by
  have hread : read data' color formatted words = .ok a := scan_command hv hh h data'
  have hstyles : Matches Restyled (read data' color formatted words)
      (read data' color' formatted' words) :=
    scan_dressed (Dressed.refl _) ⟨color', formatted', false, false, rfl⟩
  rcases hstyles.exists_or with ⟨a', b, ha, hb, hab⟩ | ⟨e, ha, -⟩
  · obtain rfl := Except.ok.inj (hread.symm.trans ha)
    exact ⟨b, hb, hab⟩
  · rw [hread] at ha
    cases ha

end Arguments
end RestShell
