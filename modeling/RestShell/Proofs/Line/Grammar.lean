import RestShell.Line.Words
import RestShell.Text.Split

/-! The grammar of a line. Words stand between blanks, and a word is written as fragments of four
kinds. Splitting accepts exactly the lines of this grammar, with the texts that their words denote;
and every list of texts has a line, for each of them can be quoted. -/

namespace RestShell

namespace Words

/-- The characters that a backslash stands for, before them and inside double quotes. -/
def doubleEscapes : List Char := ['"', '\\', '$', '`', '\n']

/-- What is written between double quotes, and the text it denotes. -/
inductive Inside : List Char → List Char → Prop where
  | nil : Inside [] []
  | char {c : Char} {x t : List Char} : c ≠ '"' → c ≠ '\\' → Inside x t → Inside (c :: x) (c :: t)
  | escaped {c : Char} {x t : List Char} : c ∈ doubleEscapes → Inside x t →
      Inside ('\\' :: c :: x) (c :: t)
  | backslash {c : Char} {x t : List Char} : c ∉ doubleEscapes → Inside (c :: x) t →
      Inside ('\\' :: c :: x) ('\\' :: t)

/-- A piece of a word as it is written, and the text it denotes. -/
inductive Fragment : List Char → List Char → Prop where
  | char {c : Char} : Chars.isBlank c = false → c ≠ '\'' → c ≠ '"' → c ≠ '\\' → Fragment [c] [c]
  | escaped (c : Char) : Fragment ['\\', c] [c]
  | single {t : List Char} : '\'' ∉ t → Fragment ('\'' :: (t ++ ['\''])) t
  | double {x t : List Char} : Inside x t → Fragment ('"' :: (x ++ ['"'])) t

/-- Any number of fragments side by side. -/
inductive Fragments : List Char → List Char → Prop where
  | nil : Fragments [] []
  | cons {x t y u : List Char} : Fragment x t → Fragments y u → Fragments (x ++ y) (t ++ u)

/-- At least one fragment. -/
inductive Word : List Char → List Char → Prop where
  | cons {x t y u : List Char} : Fragment x t → Fragments y u → Word (x ++ y) (t ++ u)

def Blanks (cs : List Char) : Prop := ∀ c ∈ cs, Chars.isBlank c = true

/-- Nothing follows, or a blank comes first. -/
def Apart (cs : List Char) : Prop := ∀ c ∈ cs.head?, Chars.isBlank c = true

/-- A line and the texts of its words. -/
inductive Line : List Char → List (List Char) → Prop where
  | blank {b : List Char} : Blanks b → Line b []
  | word {b x t r : List Char} {ts : List (List Char)} : Blanks b → Word x t → Apart r →
      Line r ts → Line (b ++ (x ++ r)) (t :: ts)

theorem isEscapable_iff (c : Char) : isEscapable c = true ↔ c ∈ doubleEscapes := by
  simp [isEscapable, doubleEscapes, or_assoc]

section Scanning
variable {c : Char} {w : Option (List Char)} {x t r cs : List Char} {ws : List (List Char)}

/-! Scanning at one character. -/

theorem scan_plain_nil (w : Option (List Char)) : scan .plain w [] = .ok w.toList := rfl

theorem scan_plain_cons (w : Option (List Char)) (c : Char) (r : List Char) :
    scan .plain w (c :: r) =
      if Chars.isBlank c then
        match w with
        | some word => (scan .plain none r).map (word :: ·)
        | none => scan .plain none r
      else if c = '\'' then scan .single (some (w.getD [])) r
      else if c = '"' then scan .double (some (w.getD [])) r
      else if c = '\\' then
        match r with
        | [] => .error .danglingEscape
        | e :: t => scan .plain (some (w.getD [] ++ [e])) t
      else scan .plain (some (w.getD [] ++ [c])) r := by
  cases r <;> cases w <;> rfl

theorem scan_single_cons (w : Option (List Char)) (c : Char) (r : List Char) :
    scan .single w (c :: r) =
      if c = '\'' then scan .plain w r else scan .single (some (w.getD [] ++ [c])) r := rfl

theorem scan_double_cons (w : Option (List Char)) (c : Char) (r : List Char) :
    scan .double w (c :: r) =
      if c = '"' then scan .plain w r
      else if c = '\\' then
        match r with
        | [] => .error .openQuotation
        | e :: t =>
          if isEscapable e then scan .double (some (w.getD [] ++ [e])) t
          else scan .double (some (w.getD [] ++ ['\\'])) (e :: t)
      else scan .double (some (w.getD [] ++ [c])) r := by
  cases r <;> rfl

theorem scan_blank (hc : Chars.isBlank c = true) (r : List Char) :
    scan .plain none (c :: r) = scan .plain none r := by
  rw [scan_plain_cons]
  simp [hc]

theorem scan_blank_some (hc : Chars.isBlank c = true) (v r : List Char) :
    scan .plain (some v) (c :: r) = (scan .plain none r).map (v :: ·) := by
  rw [scan_plain_cons]
  simp [hc]

theorem scan_char (hc : Chars.isBlank c = false) (hs : c ≠ '\'') (hd : c ≠ '"') (hb : c ≠ '\\')
    (w : Option (List Char)) (r : List Char) :
    scan .plain w (c :: r) = scan .plain (some (w.getD [] ++ [c])) r := by
  rw [scan_plain_cons]
  simp [hc, hs, hd, hb]

theorem scan_single_opens (w : Option (List Char)) (r : List Char) :
    scan .plain w ('\'' :: r) = scan .single (some (w.getD [])) r := by
  have hc : Chars.isBlank '\'' = false := by decide
  rw [scan_plain_cons]
  simp [hc]

theorem scan_double_opens (w : Option (List Char)) (r : List Char) :
    scan .plain w ('"' :: r) = scan .double (some (w.getD [])) r := by
  have hc : Chars.isBlank '"' = false := by decide
  rw [scan_plain_cons]
  simp [hc]

theorem scan_backslash (w : Option (List Char)) (e : Char) (r : List Char) :
    scan .plain w ('\\' :: e :: r) = scan .plain (some (w.getD [] ++ [e])) r := by
  have hc : Chars.isBlank '\\' = false := by decide
  rw [scan_plain_cons]
  simp [hc]

theorem scan_dangling (w : Option (List Char)) :
    scan .plain w ['\\'] = .error .danglingEscape := by
  have hc : Chars.isBlank '\\' = false := by decide
  rw [scan_plain_cons]
  simp [hc]

theorem scan_double_closes (w : Option (List Char)) (r : List Char) :
    scan .double w ('"' :: r) = scan .plain w r := by
  rw [scan_double_cons]
  simp

theorem scan_double_char (hd : c ≠ '"') (hb : c ≠ '\\') (v r : List Char) :
    scan .double (some v) (c :: r) = scan .double (some (v ++ [c])) r := by
  rw [scan_double_cons]
  simp [hd, hb]

theorem scan_double_escaped (hc : c ∈ doubleEscapes) (v r : List Char) :
    scan .double (some v) ('\\' :: c :: r) = scan .double (some (v ++ [c])) r := by
  rw [scan_double_cons]
  simp [(isEscapable_iff c).2 hc]

theorem scan_double_backslash (hc : c ∉ doubleEscapes) (v r : List Char) :
    scan .double (some v) ('\\' :: c :: r) = scan .double (some (v ++ ['\\'])) (c :: r) := by
  rw [← isEscapable_iff, Bool.not_eq_true] at hc
  rw [scan_double_cons]
  simp [hc]

/-! Scanning over what the grammar writes. -/

theorem scan_single_append (ht : '\'' ∉ t) (v r : List Char) :
    scan .single (some v) (t ++ '\'' :: r) = scan .plain (some (v ++ t)) r := by
  induction t generalizing v with
  | nil => simp [scan_single_cons]
  | cons c t ih =>
    obtain ⟨hc, ht⟩ := not_or.1 (mt List.mem_cons.2 ht)
    simp [scan_single_cons, Ne.symm hc, ih ht]

theorem scan_double_append (h : Inside x t) (v r : List Char) :
    scan .double (some v) (x ++ '"' :: r) = scan .plain (some (v ++ t)) r := by
  induction h generalizing v with
  | nil => simp [scan_double_closes]
  | char hd hb _ ih => simp [scan_double_char hd hb, ih]
  | escaped hc _ ih => simp [scan_double_escaped hc, ih]
  | backslash hc _ ih =>
    rw [List.cons_append] at ih
    simp [scan_double_backslash hc, ih]

/-- A fragment adds its text to the open word. -/
theorem scan_fragment (h : Fragment x t) (w : Option (List Char)) (r : List Char) :
    scan .plain w (x ++ r) = scan .plain (some (w.getD [] ++ t)) r := by
  cases h with
  | char hc hs hd hb => exact scan_char hc hs hd hb w r
  | escaped c => exact scan_backslash w c r
  | single ht => simp [scan_single_opens, scan_single_append ht]
  | double hi => simp [scan_double_opens, scan_double_append hi]

theorem scan_fragments (h : Fragments x t) (v r : List Char) :
    scan .plain (some v) (x ++ r) = scan .plain (some (v ++ t)) r := by
  induction h generalizing v with
  | nil => simp
  | cons hf _ ih => simp [scan_fragment hf, ih]

theorem scan_word (h : Word x t) (r : List Char) :
    scan .plain none (x ++ r) = scan .plain (some t) r := by
  obtain ⟨hf, hs⟩ := h
  rw [List.append_assoc, scan_fragment hf, scan_fragments hs]
  rfl

theorem scan_blanks {b : List Char} (h : Blanks b) (r : List Char) :
    scan .plain none (b ++ r) = scan .plain none r := by
  induction b with
  | nil => rfl
  | cons c b ih =>
    obtain ⟨hc, hb⟩ := List.forall_mem_cons.1 h
    rw [List.cons_append, scan_blank hc, ih hb]

/-- A word ends where nothing follows or a blank does. -/
theorem scan_apart (hr : Apart r) (h : scan .plain none r = .ok ws) (t : List Char) :
    scan .plain (some t) r = .ok (t :: ws) := by
  cases r with
  | nil =>
    cases h
    rfl
  | cons c r =>
    have hc : Chars.isBlank c = true := hr c rfl
    rw [scan_blank hc] at h
    rw [scan_blank_some hc, h]
    rfl

theorem scan_of_line (h : Line cs ws) : scan .plain none cs = .ok ws := by
  induction h with
  | blank hb => simpa [scan_plain_nil] using scan_blanks hb []
  | word hb hw hr _ ih => rw [scan_blanks hb, scan_word hw, scan_apart hr ih]

/-! What has been scanned was written by the grammar. -/

theorem exists_of_scan_single {v : List Char} (h : scan .single (some v) cs = .ok ws) :
    ∃ t r, cs = t ++ '\'' :: r ∧ '\'' ∉ t := by
  induction cs generalizing v with
  | nil => cases h
  | cons c cs ih =>
    by_cases hc : c = '\''
    · exact ⟨[], cs, by rw [hc]; rfl, List.not_mem_nil⟩
    · rw [scan_single_cons, if_neg hc] at h
      obtain ⟨t, r, rfl, ht⟩ := ih h
      exact ⟨c :: t, r, rfl, by simp [Ne.symm hc, ht]⟩

/-- What is open in double quotes is closed, by the first quote that no backslash escapes. -/
theorem exists_of_scan_double {v : List Char} (h : scan .double (some v) cs = .ok ws) :
    ∃ x t r, cs = x ++ '"' :: r ∧ Inside x t := by
  induction hn : cs.length using Nat.strongRecOn generalizing cs v with
  | ind n ih =>
  subst hn
  cases cs with
  | nil => cases h
  | cons c cs =>
    by_cases hd : c = '"'
    · exact ⟨[], [], cs, by rw [hd]; rfl, .nil⟩
    by_cases hb : c = '\\'
    · subst hb
      cases cs with
      | nil => cases h
      | cons e cs =>
        by_cases he : e ∈ doubleEscapes
        · rw [scan_double_escaped he] at h
          obtain ⟨x, t, r, rfl, hi⟩ := ih _ (by simp only [List.length_cons]; omega) h rfl
          exact ⟨_, _, r, rfl, .escaped he hi⟩
        · rw [scan_double_backslash he] at h
          obtain ⟨x, t, r, hx, hi⟩ := ih _ (by simp) h rfl
          -- the character behind the backslash is no quote, so it is inside as well
          cases x with
          | nil =>
            obtain ⟨rfl, -⟩ := List.cons.inj hx
            exact absurd (by decide) he
          | cons d x =>
            obtain ⟨rfl, rfl⟩ := List.cons.inj hx
            exact ⟨_, _, r, rfl, .backslash he hi⟩
    · rw [scan_double_char hd hb] at h
      obtain ⟨x, t, r, rfl, hi⟩ := ih _ (by simp) h rfl
      exact ⟨_, _, r, rfl, .char hd hb hi⟩

/-- What is no blank begins a fragment. -/
theorem exists_of_scan_plain (hc : Chars.isBlank c = false)
    (h : scan .plain w (c :: cs) = .ok ws) : ∃ x t r, c :: cs = x ++ r ∧ Fragment x t ∧ x ≠ [] := by
  by_cases hs : c = '\''
  · subst hs
    rw [scan_single_opens] at h
    obtain ⟨t, r, rfl, ht⟩ := exists_of_scan_single h
    exact ⟨_, t, r, by simp, .single ht, by simp⟩
  by_cases hd : c = '"'
  · subst hd
    rw [scan_double_opens] at h
    obtain ⟨x, t, r, rfl, hi⟩ := exists_of_scan_double h
    exact ⟨_, t, r, by simp, .double hi, by simp⟩
  by_cases hb : c = '\\'
  · subst hb
    cases cs with
    | nil =>
      rw [scan_dangling] at h
      cases h
    | cons e r => exact ⟨['\\', e], [e], r, rfl, .escaped e, by simp⟩
  · exact ⟨[c], [c], cs, rfl, .char hc hs hd hb, by simp⟩

theorem Line.cons_blank (hc : Chars.isBlank c = true) (h : Line cs ws) : Line (c :: cs) ws := by
  cases h with
  | blank hb => exact .blank (List.forall_mem_cons.2 ⟨hc, hb⟩)
  | word hb hw hr h =>
    exact .word (b := c :: _) (List.forall_mem_cons.2 ⟨hc, hb⟩) hw hr h

/-- What is read behind an open word: the rest of the word, and a line that stands apart. -/
def Continues (v cs : List Char) (ws : List (List Char)) : Prop :=
  ∃ x t r ts, cs = x ++ r ∧ ws = (v ++ t) :: ts ∧ Fragments x t ∧ Apart r ∧ Line r ts

theorem Continues.fragment {v : List Char} (hf : Fragment x t) (h : Continues (v ++ t) r ws) :
    Continues v (x ++ r) ws := by
  obtain ⟨y, u, r, ts, rfl, rfl, hs, hr, hl⟩ := h
  exact ⟨x ++ y, t ++ u, r, ts, by simp, by simp, .cons hf hs, hr, hl⟩

theorem line_of_scan :
    (scan .plain none cs = .ok ws → Line cs ws) ∧
    ∀ v, scan .plain (some v) cs = .ok ws → Continues v cs ws := by
  induction hn : cs.length using Nat.strongRecOn generalizing cs ws with
  | ind n ih =>
  subst hn
  cases cs with
  | nil =>
    refine ⟨fun h => ?_, fun v h => ?_⟩ <;> cases h
    · exact .blank nofun
    · exact ⟨[], [], [], [], rfl, by simp, .nil, nofun, .blank nofun⟩
  | cons c cs =>
    cases hc : Chars.isBlank c with
    | true =>
      have hrest : ∀ ts, scan .plain none cs = .ok ts → Line cs ts :=
        fun ts => (ih cs.length (by simp) rfl).1
      refine ⟨fun h => ?_, fun v h => ?_⟩
      · rw [scan_blank hc] at h
        exact .cons_blank hc (hrest ws h)
      · rw [scan_blank_some hc] at h
        cases hts : scan .plain none cs with
        | error fault =>
          rw [hts] at h
          cases h
        | ok ts =>
          rw [hts] at h
          cases h
          refine ⟨[], [], c :: cs, ts, rfl, by simp, .nil, ?_, .cons_blank hc (hrest ts hts)⟩
          rintro d ⟨⟩
          exact hc
    | false =>
      have hshorter : ∀ {x r}, c :: cs = x ++ r → x ≠ [] → r.length < (c :: cs).length := by
        intro x r he hx
        have hpos := List.length_pos_iff.2 hx
        rw [he, List.length_append]
        omega
      refine ⟨fun h => ?_, fun v h => ?_⟩ <;>
        obtain ⟨x, t, r, he, hf, hx⟩ := exists_of_scan_plain hc h <;>
        rw [he, scan_fragment hf] at h
      · obtain ⟨y, u, r', ts, rfl, rfl, hs, hr, hl⟩ := (ih _ (hshorter he hx) rfl).2 _ h
        rw [he, ← List.append_assoc]
        exact .word (b := []) nofun (.cons hf hs) hr hl
      · rw [he]
        exact .fragment hf ((ih _ (hshorter he hx) rfl).2 _ h)

theorem scan_eq_ok_iff : scan .plain none cs = .ok ws ↔ Line cs ws :=
  ⟨line_of_scan.1, scan_of_line⟩

/-- Scanning fails for one of two reasons only. -/
theorem scan_error {m : Mode} {fault : SyntaxFault} (h : scan m w cs = .error fault) :
    fault = .openQuotation ∨ fault = .danglingEscape := by
  induction m, w, cs using scan.induct
  case case2 r hc v ih =>
    refine ih ?_
    rw [scan_blank_some hc] at h
    cases hs : scan .plain none r <;> rw [hs] at h <;> cases h
    rfl
  case case1 => cases h
  case case6 => exact .inr (Except.error.inj ((scan_dangling _).symm.trans h)).symm
  case case9 | case12 | case14 => exact .inl (Except.error.inj h).symm
  case case3 | case4 | case5 | case7 | case8 =>
    rename_i ih
    rw [scan_plain_cons] at h
    exact ih (by simp_all)
  case case10 | case11 =>
    rename_i ih
    rw [scan_single_cons] at h
    exact ih (by simp_all)
  case case13 | case15 | case16 | case17 =>
    rename_i ih
    rw [scan_double_cons] at h
    exact ih (by simp_all)

end Scanning

section Quoting

/-- What single quotes hold of a text: a single quote closes them, is escaped, and opens them
again. -/
def quotedChar (c : Char) : List Char := if c = '\'' then ['\'', '\\', '\'', '\''] else [c]

/-- A text between single quotes. -/
def quote (t : List Char) : List Char := '\'' :: (t.flatMap quotedChar ++ ['\''])

/-- The texts, each quoted, with a space between neighbours. -/
def quoted (ts : List (List Char)) : List Char := Chars.join ' ' (ts.map quote)

theorem scan_single_quoted (t v r : List Char) :
    scan .single (some v) (t.flatMap quotedChar ++ '\'' :: r) = scan .plain (some (v ++ t)) r := by
  induction t generalizing v with
  | nil => simp [scan_single_cons]
  | cons c t ih =>
    by_cases hc : c = '\''
    · subst hc
      calc scan .single (some v) (('\'' :: t).flatMap quotedChar ++ '\'' :: r)
          = scan .plain (some v) ('\\' :: '\'' :: '\'' :: (t.flatMap quotedChar ++ '\'' :: r)) := by
            simp [quotedChar, scan_single_cons]
        _ = scan .single (some (v ++ ['\''])) (t.flatMap quotedChar ++ '\'' :: r) := by
            rw [scan_backslash, scan_single_opens]
            rfl
        _ = scan .plain (some (v ++ '\'' :: t)) r := by simp [ih]
    · simp [quotedChar, hc, scan_single_cons, ih]

theorem scan_quote (t r : List Char) :
    scan .plain none (quote t ++ r) = scan .plain (some t) r := by
  simp [quote, scan_single_opens, scan_single_quoted]

theorem scan_quoted (ts : List (List Char)) : scan .plain none (quoted ts) = .ok ts := by
  induction ts with
  | nil => rfl
  | cons t ts ih =>
    cases ts with
    | nil => simpa [quoted, Chars.join, scan_plain_nil] using scan_quote t []
    | cons u ts =>
      have hjoin : quoted (t :: u :: ts) = quote t ++ ' ' :: quoted (u :: ts) := rfl
      rw [hjoin, scan_quote, scan_blank_some (by decide), ih]
      rfl

end Quoting

end Words

theorem splitWords_eq_ok_iff {line : String} {words : List String} :
    splitWords line = .ok words ↔ Words.Line line.toList (words.map String.toList) := by
  rw [← Words.scan_eq_ok_iff, splitWords]
  cases Words.scan .plain none line.toList with
  | error fault => exact iff_of_false nofun nofun
  | ok ws =>
    simp only [Except.map, Except.ok.injEq]
    constructor
    · rintro rfl
      simp [Function.comp_def]
    · rintro rfl
      simp [Function.comp_def]

/-- Splitting a line gives the words of the grammar, and a line without words in the grammar is a
breach of it. Every list of words has a line: the one that quotes each of them. -/
theorem splitWords_grammar :
    (∀ line words, splitWords line = .ok words ↔
      Words.Line line.toList (words.map String.toList)) ∧
    (∀ line, (∃ fault, splitWords line = .error fault ∧
      (fault = .openQuotation ∨ fault = .danglingEscape)) ↔
        ¬ ∃ words, Words.Line line.toList words) ∧
    ∀ words : List String,
      splitWords (.ofList (Words.quoted (words.map String.toList))) = .ok words := by
  refine ⟨fun line words => splitWords_eq_ok_iff, fun line => ?_, fun words => ?_⟩
  · constructor
    · rintro ⟨fault, he, -⟩ ⟨words, hl⟩
      rw [splitWords, Words.scan_eq_ok_iff.2 hl] at he
      cases he
    · intro hn
      rw [splitWords]
      cases hs : Words.scan .plain none line.toList with
      | error fault => exact ⟨fault, rfl, Words.scan_error hs⟩
      | ok words => exact absurd ⟨words, Words.scan_eq_ok_iff.1 hs⟩ hn
  · rw [splitWords, String.toList_ofList, Words.scan_quoted]
    simp [Except.map, Function.comp_def]

end RestShell
