import RestShell.Line.Arguments

/-! What the words of a line are read into. What every flag and every bare word keeps is kept
by the whole reading, and the bare words alone say which verb, which path and which operands
there are. -/

namespace RestShell

theorem exists_of_bind_eq_ok {ε α β : Type} {x : Except ε α} {f : α → Except ε β} {r : β}
    (h : x >>= f = .ok r) : ∃ a, x = .ok a ∧ f a = .ok r := by
  cases x with
  | error e => cases h
  | ok a => exact ⟨a, rfl, h⟩

namespace Arguments
variable {data : Assoc Json.Value} {a b : Arguments} {words : List String}

section Equations
variable {word : String}

/-- What a word is read into and what is read on. -/
theorem scan_cons (data : Assoc Json.Value) (a : Arguments) (word : String) (rest : List String) :
    scan data a (word :: rest) = match Item.ofWord word with
      | .blank => scan data a rest
      | .redirect r => scan data { a with redirect := some r } rest
      | .switch s => scan data (a.turn s) rest
      | .valued flag =>
        match rest with
        | [] => .error (.grammar (.missingValue flag))
        | value :: rest => (a.take flag value).mapError .grammar >>= (scan data · rest)
      | .bare => a.bare data word >>= (scan data · rest) := by
  cases hword : Item.ofWord word with
  | blank | redirect | switch => cases rest <;> simp only [scan, hword]
  | valued flag =>
    cases rest with
    | nil => simp only [scan, hword]
    | cons value rest =>
      simp only [scan, hword]
      cases a.take flag value <;> rfl
  | bare =>
    cases hb : a.bare data word <;> cases rest <;> simp only [scan, hword, hb, bind, Except.bind]

theorem scan_cons_blank (h : Item.ofWord word = .blank) (a : Arguments) (rest : List String) :
    scan data a (word :: rest) = scan data a rest := by
  rw [scan_cons, h]

theorem scan_cons_redirect {r : Redirect} (h : Item.ofWord word = .redirect r) (a : Arguments)
    (rest : List String) :
    scan data a (word :: rest) = scan data { a with redirect := some r } rest := by
  rw [scan_cons, h]

theorem scan_cons_switch {s : Switch} (h : Item.ofWord word = .switch s) (a : Arguments)
    (rest : List String) : scan data a (word :: rest) = scan data (a.turn s) rest := by
  rw [scan_cons, h]

theorem scan_missing {flag : ValueFlag} (h : Item.ofWord word = .valued flag) (a : Arguments) :
    scan data a [word] = .error (.grammar (.missingValue flag)) := by
  rw [scan_cons, h]

theorem scan_cons_valued {flag : ValueFlag} (h : Item.ofWord word = .valued flag) (a : Arguments)
    (value : String) (rest : List String) :
    scan data a (word :: value :: rest) =
      (a.take flag value).mapError .grammar >>= (scan data · rest) := by
  rw [scan_cons, h]

theorem scan_cons_bare (h : Item.ofWord word = .bare) (a : Arguments) (rest : List String) :
    scan data a (word :: rest) = a.bare data word >>= (scan data · rest) := by
  rw [scan_cons, h]

end Equations

/-- A property that every word keeps is kept by all of them. -/
theorem scan_invariant {P : Arguments → Prop}
    (hredirect : ∀ a r, P a → P { a with redirect := some r })
    (hturn : ∀ a s, P a → P (a.turn s))
    (htake : ∀ a flag value b, P a → a.take flag value = .ok b → P b)
    (hbare : ∀ a word b, P a → a.bare data word = .ok b → P b)
    (h : scan data a words = .ok b) (ha : P a) : P b := by
  fun_induction scan data a words with
  | case1 a =>
    cases h
    exact ha
  | case2 a word rest hword ih => exact ih h ha
  | case3 a word rest r hword ih => exact ih h (hredirect a r ha)
  | case4 a word rest s hword ih => exact ih h (hturn a s ha)
  | case5 a word flag hword => cases h
  | case6 a word flag hword value rest next ht ih => exact ih h (htake a flag value next ha ht)
  | case7 a word flag hword value rest fault ht => cases h
  | case8 a word rest hword next hb ih => exact ih h (hbare a word next ha hb)
  | case9 a word rest hword e hb => cases h

/-- Arguments that differ in what flags say only: the bare words are read alike. -/
structure Flagged (a b : Arguments) : Prop where
  verb : b.verb = a.verb
  path : b.path = a.path
  operands : b.operands = a.operands

theorem turn_flagged (a : Arguments) (s : Switch) : Flagged a (a.turn s) := by
  cases s <;> exact ⟨rfl, rfl, rfl⟩

theorem turn_captures (a : Arguments) (s : Switch) : (a.turn s).captures = a.captures := by
  cases s <;> rfl

/-- The value of a flag is no bare word. It adds a capture, whose name ends at the first `=`,
or none. -/
theorem take_cases {flag : ValueFlag} {value : String} (h : a.take flag value = .ok b) :
    Flagged a b ∧ (b.captures = a.captures ∨
      ∃ key path, Text.cut '=' value = some (key, path) ∧
        b.captures = a.captures ++ [⟨key, path⟩]) := by
  unfold take at h
  cases flag with
  | redirect | url | extract | exclude =>
    cases h
    exact ⟨⟨rfl, rfl, rfl⟩, .inl rfl⟩
  | file =>
    dsimp only at h
    split at h <;> cases h
  | basic | query | header | json =>
    dsimp only at h
    split at h <;> cases h
    exact ⟨⟨rfl, rfl, rfl⟩, .inl rfl⟩
  | capture =>
    dsimp only at h
    split at h
    · rename_i key path hcut
      cases h
      exact ⟨⟨rfl, rfl, rfl⟩, .inr ⟨key, path, hcut, rfl⟩⟩
    · cases h

/-- A bare word is the verb, the path or a parameter, or an operand. -/
theorem bare_cases {word : String} (h : a.bare data word = .ok b) :
    (a.verb = none ∧ b = { a with verb := some (canonicalVerb (Text.lower word)) }) ∨
    ∃ verb, a.verb = some verb ∧
      ((isHttpVerb verb = true ∧ a.path = none ∧
          b = { a with path := some (Path.normalize false false word) }) ∨
        (isHttpVerb verb = true ∧ a.path ≠ none ∧ ∃ params, b = { a with params }) ∨
        (isHttpVerb verb = false ∧ b = { a with operands := a.operands ++ [word] })) := by
  unfold bare at h
  cases hv : a.verb with
  | none =>
    simp only [hv] at h
    cases h
    exact .inl ⟨rfl, rfl⟩
  | some verb =>
    refine .inr ⟨verb, rfl, ?_⟩
    simp only [hv] at h
    by_cases hh : isHttpVerb verb = true
    · rw [if_pos hh] at h
      cases hp : a.path with
      | none =>
        simp only [hp] at h
        cases h
        exact .inl ⟨hh, rfl, rfl⟩
      | some path =>
        simp only [hp] at h
        cases hadd : Parameter.add data word a.params with
        | ok params =>
          rw [hadd] at h
          cases h
          exact .inr (.inl ⟨hh, nofun, params, rfl⟩)
        | error e =>
          rw [hadd] at h
          cases h
    · rw [if_neg hh] at h
      cases h
      exact .inr (.inr ⟨by simpa using hh, rfl⟩)

theorem bare_captures {word : String} (h : a.bare data word = .ok b) :
    b.captures = a.captures := by
  obtain ⟨-, rfl⟩ | ⟨verb, -, ⟨-, -, rfl⟩ | ⟨-, -, params, rfl⟩ | ⟨-, rfl⟩⟩ := bare_cases h <;> rfl

/-- No capture has a `=` in its name. -/
theorem captures_unmarked {color formatted : Bool} (h : read data color formatted words = .ok a) :
    ∀ c ∈ a.captures, '=' ∉ c.key.toList := by
  refine scan_invariant (P := fun a => ∀ c ∈ a.captures, '=' ∉ c.key.toList)
    (fun _ _ ha => ha) ?_ ?_ ?_ h (by simp)
  · intro a s ha
    rw [turn_captures]
    exact ha
  · intro a flag value b ha ht
    rcases (take_cases ht).2 with hb | ⟨key, path, hcut, hb⟩
    · rw [hb]
      exact ha
    · obtain ⟨⟨k, p⟩, hk, he⟩ := Option.map_eq_some_iff.1 hcut
      cases he
      rw [hb]
      simp only [List.forall_mem_append, List.forall_mem_singleton]
      exact ⟨ha, by simpa using (Chars.cut_eq_some hk).2⟩
  · intro a word b ha hb
    rw [bare_captures hb]
    exact ha

section Verb
variable {verb : String}

/-- A verb once read stays. -/
theorem scan_verb (hv : a.verb = some verb) (h : scan data a words = .ok b) :
    b.verb = some verb := by
  refine scan_invariant (P := fun a => a.verb = some verb) (fun _ _ ha => ha) ?_ ?_ ?_ h hv
  · intro a s ha
    exact (turn_flagged a s).verb.trans ha
  · intro a flag value b ha ht
    exact (take_cases ht).1.verb.trans ha
  · intro a word b ha hb
    obtain ⟨hn, -⟩ | ⟨-, -, ⟨-, -, rfl⟩ | ⟨-, -, params, rfl⟩ | ⟨-, rfl⟩⟩ := bare_cases hb
    · rw [ha] at hn
      cases hn
    all_goals exact ha

/-- Captured values are looked up for the parameters of a request only. -/
theorem bare_data (h : ∀ verb, a.verb = some verb → isHttpVerb verb = false)
    (data' : Assoc Json.Value) (word : String) : a.bare data' word = a.bare data word := by
  unfold bare
  cases hv : a.verb with
  | none => rfl
  | some verb => simp only [h verb hv, Bool.false_eq_true, if_false]

/-- The words of a command of the shell are read alike whatever was captured. -/
theorem scan_command (hv : b.verb = some verb) (hh : isHttpVerb verb = false)
    (h : scan data a words = .ok b) (data' : Assoc Json.Value) : scan data' a words = .ok b := by
  fun_induction scan data a words with
  | case1 a => exact h
  | case2 a word rest hword ih => rw [scan_cons_blank hword, ih h]
  | case3 a word rest r hword ih => rw [scan_cons_redirect hword, ih h]
  | case4 a word rest s hword ih => rw [scan_cons_switch hword, ih h]
  | case5 a word flag hword => cases h
  | case6 a word flag hword value rest next ht ih =>
    rw [scan_cons_valued hword, ht]
    exact ih h
  | case7 a word flag hword value rest fault ht => cases h
  | case8 a word rest hword next hb ih =>
    -- a verb that is sent would stay, and the verb that is read is none
    have hnot : ∀ verb, a.verb = some verb → isHttpVerb verb = false := by
      intro verb' hv'
      have hcons : scan data a (word :: rest) = .ok b := by
        rw [scan_cons_bare hword, hb]
        exact h
      rwa [← Option.some.inj (hv.symm.trans (scan_verb hv' hcons))]
    rw [scan_cons_bare hword, bare_data hnot data' word, hb]
    exact ih h
  | case9 a word rest hword e hb => cases h

end Verb

/-- The bare words among unbundled ones: those that are no flag, no value of one and no
redirection. -/
def bareWords : List String → List String
  | [] => []
  | word :: rest =>
    match Item.ofWord word with
    | .bare => word :: bareWords rest
    | .valued _ =>
      match rest with
      | [] => []
      | _ :: rest => bareWords rest
    | .blank | .redirect _ | .switch _ => bareWords rest

section BareWords
variable {word : String}

theorem bareWords_bare (h : Item.ofWord word = .bare) (rest : List String) :
    bareWords (word :: rest) = word :: bareWords rest := by
  cases rest <;> simp [bareWords, h]

theorem bareWords_valued {flag : ValueFlag} (h : Item.ofWord word = .valued flag) (value : String)
    (rest : List String) : bareWords (word :: value :: rest) = bareWords rest := by
  simp [bareWords, h]

theorem bareWords_skip (h : Item.ofWord word = .blank ∨ (∃ r, Item.ofWord word = .redirect r) ∨
    ∃ s, Item.ofWord word = .switch s) (rest : List String) :
    bareWords (word :: rest) = bareWords rest := by
  rcases h with h | ⟨r, h⟩ | ⟨s, h⟩ <;> cases rest <;> simp [bareWords, h]

end BareWords

/-- Behind a verb that is sent the first bare word is the path, if there is none yet. -/
theorem scan_path {verb : String} (hh : isHttpVerb verb = true) (hv : a.verb = some verb)
    (h : scan data a words = .ok b) :
    b.verb = some verb ∧
      b.path = a.path.or ((bareWords words).head?.map (Path.normalize false false)) := by
  fun_induction scan data a words with
  | case1 a =>
    cases h
    exact ⟨hv, by simp [bareWords]⟩
  | case2 a word rest hword ih =>
    rw [bareWords_skip (.inl hword)]
    exact ih hv h
  | case3 a word rest r hword ih =>
    rw [bareWords_skip (.inr (.inl ⟨r, hword⟩))]
    exact ih hv h
  | case4 a word rest s hword ih =>
    rw [bareWords_skip (.inr (.inr ⟨s, hword⟩)), ← (turn_flagged a s).path]
    exact ih ((turn_flagged a s).verb ▸ hv) h
  | case5 a word flag hword => cases h
  | case6 a word flag hword value rest next ht ih =>
    have hf := (take_cases ht).1
    rw [bareWords_valued hword, ← hf.path]
    exact ih (hf.verb ▸ hv) h
  | case7 a word flag hword value rest fault ht => cases h
  | case8 a word rest hword next hb ih =>
    rw [bareWords_bare hword]
    obtain ⟨hn, -⟩ | ⟨verb', hv', hcases⟩ := bare_cases hb
    · rw [hn] at hv
      cases hv
    · obtain rfl : verb' = verb := by simpa [hv] using hv'.symm
      obtain ⟨-, hnone, rfl⟩ | ⟨-, hsome, params, rfl⟩ | ⟨hf, -⟩ := hcases
      · simpa [hnone] using ih hv h
      · obtain ⟨path, hpath⟩ := Option.ne_none_iff_exists'.1 hsome
        simpa [hpath] using ih hv h
      · rw [hf] at hh
        cases hh
  | case9 a word rest hword e hb => cases h

/-- The first bare word is the verb, and the next one the path if the verb is sent. -/
theorem scan_bareWords {verb path : String} {rest : List String} (hv : a.verb = none)
    (hp : a.path = none) (hw : bareWords words = verb :: path :: rest)
    (hh : isHttpVerb (canonicalVerb (Text.lower verb)) = true) (h : scan data a words = .ok b) :
    b.verb = some (canonicalVerb (Text.lower verb)) ∧
      b.path = some (Path.normalize false false path) := by
  fun_induction scan data a words with
  | case1 a => cases hw
  | case2 a word rest' hword ih =>
    rw [bareWords_skip (.inl hword)] at hw
    exact ih hv hp hw h
  | case3 a word rest' r hword ih =>
    rw [bareWords_skip (.inr (.inl ⟨r, hword⟩))] at hw
    exact ih hv hp hw h
  | case4 a word rest' s hword ih =>
    rw [bareWords_skip (.inr (.inr ⟨s, hword⟩))] at hw
    exact ih ((turn_flagged a s).verb.trans hv) ((turn_flagged a s).path.trans hp) hw h
  | case5 a word flag hword => cases h
  | case6 a word flag hword value rest' next ht ih =>
    have hf := (take_cases ht).1
    rw [bareWords_valued hword] at hw
    exact ih (hf.verb.trans hv) (hf.path.trans hp) hw h
  | case7 a word flag hword value rest' fault ht => cases h
  | case8 a word rest' hword next hb ih =>
    rw [bareWords_bare hword] at hw
    obtain ⟨rfl, hrest⟩ := List.cons.inj hw
    obtain ⟨-, rfl⟩ | ⟨verb', hv', -⟩ := bare_cases hb
    · simpa [hp, hrest] using scan_path hh rfl h
    · rw [hv] at hv'
      cases hv'
  | case9 a word rest' hword e hb => cases h

end Arguments
end RestShell
