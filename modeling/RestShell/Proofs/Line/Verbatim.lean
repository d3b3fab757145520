import RestShell.Proofs.Line.Clauses

/-! Words that are taken as they stand. Words are unbundled before they are read, wherever they
stand: a bundle that is an operand or the value of a flag comes apart as one in flag position does.
All other words reach a command letter for letter, empty ones excepted; and a flag's value is the
next word just when that word is no bundle. -/

namespace RestShell

/-- A lone minus and two characters or more behind it, the first of them no `-`, `+` or `=`. -/
def isBundle (word : String) : Bool :=
  match word.toList with
  | '-' :: c :: _ :: _ => c != '-' && c != '+' && c != '='
  | _ => false

theorem unbundle_eq (word : String) : unbundle word =
    if isBundle word then word.toList.tail.map (fun x => .ofList ['-', x]) else [word] := by
  rcases hword : word.toList with _ | ⟨lead, _ | ⟨c, _ | ⟨d, r⟩⟩⟩
  · simp [unbundle, isBundle, hword]
  · simp [unbundle, isBundle, hword]
  · simp [unbundle, isBundle, hword]
  · by_cases hlead : lead = '-'
    · subst hlead
      simp only [unbundle, isBundle, hword, List.tail_cons]
      by_cases hc : c = '-' ∨ c = '+' ∨ c = '='
      · rw [if_pos hc, if_neg]
        simpa [or_iff_not_imp_left] using hc
      · rw [if_neg hc, if_pos]
        simpa [not_or, and_assoc] using hc
    · simp [unbundle, isBundle, hword, hlead]

theorem unbundle_of_not_bundle {word : String} (h : isBundle word = false) :
    unbundle word = [word] := by
  rw [unbundle_eq, h]
  rfl

theorem isBundle_letter (x : Char) : isBundle (.ofList ['-', x]) = false := by
  simp [isBundle]

/-- A bundle comes apart, and its first letter is not all of it. -/
theorem unbundle_of_bundle {word : String} (h : isBundle word = true) :
    ∃ first rest, unbundle word = first :: rest ∧ first ≠ word := by
  rw [unbundle_eq, if_pos h]
  cases hword : word.toList with
  | nil => simp [isBundle, hword] at h
  | cons lead letters =>
    cases letters with
    | nil => simp [isBundle, hword] at h
    | cons c r =>
      refine ⟨.ofList ['-', c], r.map fun x => .ofList ['-', x], rfl, ?_⟩
      rintro rfl
      rw [isBundle_letter] at h
      cases h

/-- What a word comes apart into stays as it is. -/
theorem unbundle_of_mem_unbundle {word part : String} (h : part ∈ unbundle word) :
    unbundle part = [part] := by
  rw [unbundle_eq] at h
  split at h
  · obtain ⟨x, -, rfl⟩ := List.mem_map.1 h
    exact unbundle_of_not_bundle (isBundle_letter x)
  · rename_i hword
    rw [List.mem_singleton.1 h]
    exact unbundle_of_not_bundle (by simpa using hword)

theorem flatMap_unbundle_of_forall {words : List String} (h : ∀ w ∈ words, unbundle w = [w]) :
    words.flatMap unbundle = words := by
  induction words with
  | nil => rfl
  | cons w rest ih =>
    obtain ⟨hw, hrest⟩ := List.forall_mem_cons.1 h
    rw [List.flatMap_cons, hw, ih hrest]
    rfl

section Leads
variable {word : String}

theorem ValueFlag.lead_of_ofWord? {flag : ValueFlag} (h : ValueFlag.ofWord? word = some flag) :
    word.toList.head? = some '-' ∨ word.toList.head? = some '>' := by
  unfold ValueFlag.ofWord? at h
  split at h <;> first | decide | cases h

theorem Switch.lead_of_ofWord? {s : Switch} (h : Switch.ofWord? word = some s) :
    word.toList.head? = some '-' := by
  unfold Switch.ofWord? at h
  split at h <;> first | decide | cases h

theorem Redirect.ofWord?_eq_none (h : word.toList.head? ≠ some '>') :
    Redirect.ofWord? word = none := by
  unfold Redirect.ofWord?
  split
  · rename_i hword
    simp [hword] at h
  · rename_i hword
    simp [hword] at h
  · rfl

end Leads

/-- No flag, no redirection and no bundle. -/
structure Plain (word : String) : Prop where
  valued : ValueFlag.ofWord? word = none
  switch : Switch.ofWord? word = none
  lead : word.toList.head? ≠ some '>'
  bundle : isBundle word = false

section PlainWords
variable {word : String}

theorem Plain.ofWord (h : Plain word) (hne : word ≠ "") : Item.ofWord word = .bare := by
  rw [Item.ofWord, if_neg hne, h.valued, h.switch, Redirect.ofWord?_eq_none h.lead]

/-- A word that starts like no flag is plain. -/
theorem plain_of_lead (hminus : word.toList.head? ≠ some '-')
    (hangle : word.toList.head? ≠ some '>') : Plain word where
  valued := by
    cases h : ValueFlag.ofWord? word with
    | none => rfl
    | some flag => exact ((ValueFlag.lead_of_ofWord? h).elim hminus hangle).elim
  switch := by
    cases h : Switch.ofWord? word with
    | none => rfl
    | some s => exact absurd (Switch.lead_of_ofWord? h) hminus
  lead := hangle
  bundle := by
    unfold isBundle
    split
    · rename_i hword
      simp [hword] at hminus
    · rfl

/-- Plain words are bare words, the empty ones left out. -/
theorem Clause.ofLine?_plain {words : List String} (h : ∀ w ∈ words, Plain w) :
    Clause.ofLine? words = some ((words.filter (· ≠ "")).map .bare) := by
  rw [Clause.ofLine?, flatMap_unbundle_of_forall fun w hw => unbundle_of_not_bundle (h w hw).bundle]
  induction words with
  | nil => rfl
  | cons w rest ih =>
    obtain ⟨hw, hrest⟩ := List.forall_mem_cons.1 h
    by_cases hne : w = ""
    · rw [Clause.ofWords?_blank (by rw [hne]; rfl), ih hrest, List.filter_cons_of_neg (by simpa)]
    · rw [Clause.ofWords?_bare (hw.ofWord hne), ih hrest, List.filter_cons_of_pos (by simpa)]
      rfl

end PlainWords

/-- A flag that takes a value, with the words of the line before it and behind it. The other
letters of its bundle are words beside it. -/
inductive Stands (flag : ValueFlag) : List String → List String → List String → Prop where
  | intro (front before after : List String) {back : List String} {word last : String} :
      unbundle word = before ++ last :: after → Item.ofWord last = .valued flag →
      Stands flag (front ++ word :: back) (front ++ before) (after ++ back)

theorem Stands.flatMap_unbundle {flag : ValueFlag} {words before after : List String}
    (h : Stands flag words before after) : ∃ last, Item.ofWord last = .valued flag ∧
      words.flatMap unbundle = before.flatMap unbundle ++ last :: after.flatMap unbundle := by
  obtain @⟨front, inner, outer, back, word, last, hword, hlast⟩ := h
  refine ⟨last, hlast, ?_⟩
  have hletters : ∀ part ∈ inner ++ last :: outer, unbundle part = [part] := by
    rw [← hword]
    exact fun part => unbundle_of_mem_unbundle
  have hinner : inner.flatMap unbundle = inner :=
    flatMap_unbundle_of_forall fun w hw => hletters w (by simp [hw])
  have houter : outer.flatMap unbundle = outer :=
    flatMap_unbundle_of_forall fun w hw => hletters w (by simp [hw])
  rw [List.flatMap_append, List.flatMap_cons, hword, List.flatMap_append, hinner,
    List.flatMap_append, houter]
  simp

namespace Arguments
variable {data : Assoc Json.Value} {color formatted : Bool} {a : Arguments}

/-- Behind the verb of a command bare words are its operands. -/
theorem followAll_operands {verb : String} (hverb : a.verb = some verb)
    (hhttp : isHttpVerb verb = false) (words : List String) :
    followAll data a (words.map .bare) = .ok { a with operands := a.operands ++ words } := by
  induction words generalizing a with
  | nil => simp
  | cons w rest ih =>
    have hbare : a.follow data (.bare w) = .ok { a with operands := a.operands ++ [w] } := by
      simp only [follow, bare, hverb, hhttp, Bool.false_eq_true, if_false]
    rw [List.map_cons, followAll_cons, hbare]
    refine (ih (a := { a with operands := a.operands ++ [w] }) hverb).trans ?_
    simp

/-- The words of a command of the shell reach it as they stand, in their number and order, but for
empty ones, which are left out; and they say nothing else. -/
theorem read_operands {verb : String} {words : List String} (hne : verb ≠ "")
    (hminus : verb.toList.head? ≠ some '-') (hangle : verb.toList.head? ≠ some '>')
    (hhttp : isHttpVerb (canonicalVerb (Text.lower verb)) = false)
    (hwords : ∀ w ∈ words, Plain w) :
    read data color formatted (verb :: words) = .ok
      { color, formatted, verb := some (canonicalVerb (Text.lower verb))
        operands := words.filter (· ≠ "") } := by
  have hline : Clause.ofLine? (verb :: words) =
      some (.bare verb :: (words.filter (· ≠ "")).map .bare) := by
    rw [Clause.ofLine?_plain (List.forall_mem_cons.2 ⟨plain_of_lead hminus hangle, hwords⟩),
      List.filter_cons_of_pos (by simpa)]
    rfl
  refine read_eq_ok_iff.2 ⟨_, hline, ?_⟩
  exact followAll_operands rfl hhttp _

/-- Words that look like flags, parameters and values of the shell, and an empty one. -/
theorem read_operands_env :
    let words := ["-=token", "+=user", "", "a.b=c", "--", "-", "-z", "-+x", "--fast", "a b"]
    ("Env" ≠ "" ∧ "Env".toList.head? ≠ some '-' ∧ "Env".toList.head? ≠ some '>' ∧
      isHttpVerb (canonicalVerb (Text.lower "Env")) = false ∧ ∀ w ∈ words, Plain w) ∧
    read [] false true ("Env" :: words) = .ok { verb := some "env", operands :=
      ["-=token", "+=user", "a.b=c", "--", "-", "-z", "-+x", "--fast", "a b"] } := by
  intro words
  have hwords : ∀ w ∈ words, Plain w := by
    have hall : ∀ w ∈ words, ValueFlag.ofWord? w = none ∧ Switch.ofWord? w = none ∧
        w.toList.head? ≠ some '>' ∧ isBundle w = false := by decide +kernel
    exact fun w hw => ⟨(hall w hw).1, (hall w hw).2.1, (hall w hw).2.2.1, (hall w hw).2.2.2⟩
  have hverb : canonicalVerb (Text.lower "Env") = "env" := by decide +kernel
  have hhttp : isHttpVerb (canonicalVerb (Text.lower "Env")) = false := by decide +kernel
  refine ⟨⟨by decide, by decide, by decide, hhttp, hwords⟩, ?_⟩
  have h : read [] false true ("Env" :: words) =
      .ok { verb := some (canonicalVerb (Text.lower "Env")), operands := words.filter (· ≠ "") } :=
    read_operands (by decide) (by decide) (by decide) hhttp hwords
  rw [hverb] at h
  exact h.trans (by decide +kernel)

/-- An empty operand is lost, and one that looks like a bundle of flags comes apart, though it is
no flag, no bundle of flags and no redirection. -/
theorem read_operands_lost :
    (∀ w ∈ ["echo", "", "x", "ls", "-la"], ValueFlag.ofWord? w = none ∧ Switch.ofWord? w = none ∧
      w.toList.head? ≠ some '>' ∧
      ¬ ∀ letter ∈ unbundle w,
        (ValueFlag.ofWord? letter).isSome ∨ (Switch.ofWord? letter).isSome) ∧
    read [] false true ["sh", "echo", "", "x"] =
      .ok { verb := some "sh", operands := ["echo", "x"] } ∧
    read [] false true ["sh", "ls", "-la"] =
      .ok { verb := some "sh", operands := ["ls", "-l", "-a"] } := by
  decide +kernel

/-- A flag in flag position takes the next word as it stands, and the words behind that one are read
as they would be without it, just when the word is no bundle. -/
theorem read_value_iff {flag : ValueFlag} {words before after : List String} {said : List Clause}
    (hread : read data color formatted words = .ok a) (hstands : Stands flag words before after)
    (hbefore : Clause.ofLine? before = some said) :
    ∃ value rest, after = value :: rest ∧
      ((∃ later, Clause.ofLine? rest = some later ∧
          Clause.ofLine? words = some (said ++ .valued flag value :: later) ∧
          followAll data { color, formatted } (said ++ .valued flag value :: later) = .ok a) ↔
        isBundle value = false) := by
  obtain ⟨clauses, hline, hfollow⟩ := read_eq_ok_iff.1 hread
  obtain ⟨last, hlast, hwords⟩ := hstands.flatMap_unbundle
  have hcut :
      (Clause.ofWords? (last :: after.flatMap unbundle)).map (said ++ ·) = some clauses := by
    rw [← hline, Clause.ofLine?, hwords]
    exact (Clause.ofWords?_append hbefore _).symm
  cases after with
  | nil =>
    rw [List.flatMap_nil, Clause.ofWords?_missing hlast] at hcut
    cases hcut
  | cons value rest =>
    refine ⟨value, rest, rfl, ?_⟩
    rw [List.flatMap_cons] at hcut
    constructor
    · rintro ⟨later, -, hsaid, -⟩
      by_contra hbundle
      -- the flag has the first letter alone, and both readings say what it has
      obtain ⟨first, letters, hletters, hne⟩ := unbundle_of_bundle (by simpa using hbundle)
      rw [hletters, List.cons_append, Clause.ofWords?_valued hlast] at hcut
      obtain ⟨_, hvalued, hclauses⟩ := Option.map_eq_some_iff.1 hcut
      obtain ⟨_, -, rfl⟩ := Option.map_eq_some_iff.1 hvalued
      rw [hline, ← hclauses] at hsaid
      have htail := List.append_cancel_left (Option.some.inj hsaid)
      exact hne (Clause.valued.inj (List.cons.inj htail).1).2
    · intro hbundle
      rw [unbundle_of_not_bundle hbundle, List.singleton_append,
        Clause.ofWords?_valued hlast] at hcut
      obtain ⟨_, hvalued, hclauses⟩ := Option.map_eq_some_iff.1 hcut
      obtain ⟨later, hlater, rfl⟩ := Option.map_eq_some_iff.1 hvalued
      rw [← hclauses] at hline hfollow
      exact ⟨later, hlater, hline, hfollow⟩

/-- A flag at the end of its bundle, and a value that is itself a flag. -/
theorem read_value_flag :
    let words := ["get", "-rx", "--raw", "/", "-Q", "a=b"]
    let a : Arguments := { verb := some "get", path := some "/", extract := ["--raw"]
                           query := ["a=b"], formatted := false }
    (read [] false true words = .ok a ∧
      Stands .extract words ["get", "-r"] ["--raw", "/", "-Q", "a=b"] ∧
      Clause.ofLine? ["get", "-r"] = some [.bare "get", .switch .raw]) ∧
    Clause.ofLine? words = some
      [.bare "get", .switch .raw, .valued .extract "--raw", .bare "/", .valued .query "a=b"] := by
  intro words a
  have hread : read [] false true words = .ok a := by decide +kernel
  have hstands : Stands .extract words ["get", "-r"] ["--raw", "/", "-Q", "a=b"] :=
    Stands.intro ["get"] ["-r"] [] (rfl : unbundle "-rx" = ["-r", "-x"]) rfl
  have hbefore : Clause.ofLine? ["get", "-r"] = some [.bare "get", .switch .raw] := by
    decide +kernel
  refine ⟨⟨hread, hstands, hbefore⟩, ?_⟩
  obtain ⟨value, rest, hafter, hiff⟩ := read_value_iff hread hstands hbefore
  cases hafter
  obtain ⟨later, hlater, hwords, -⟩ := hiff.2 (by decide +kernel)
  have hrest : Clause.ofLine? ["/", "-Q", "a=b"] = some [.bare "/", .valued .query "a=b"] := by
    decide +kernel
  rw [hrest] at hlater
  cases hlater
  exact hwords

/-- The name of a file that begins with a minus comes apart: its first letter names the file, and
the others set a base URL. -/
theorem read_value_apart :
    read [] false true ["get", "/", ">", "-out"] =
      .ok { verb := some "get", path := some "/", redirect := some ⟨"-o", .replace⟩
            url := some "-t" } ∧
    Stands (.redirect .replace) ["get", "/", ">", "-out"] ["get", "/"] ["-out"] ∧
    Clause.ofLine? ["get", "/"] = some [.bare "get", .bare "/"] ∧
    Clause.ofLine? ["get", "/", ">", "-out"] ≠
      some [.bare "get", .bare "/", .valued (.redirect .replace) "-out"] := by
  refine ⟨by decide +kernel, ?_, by decide +kernel, by decide +kernel⟩
  exact Stands.intro ["get", "/"] [] [] (rfl : unbundle ">" = [">"]) rfl

end Arguments
end RestShell
