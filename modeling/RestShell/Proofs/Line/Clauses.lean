import Mathlib.Data.List.Induction
import RestShell.Proofs.Line.Scan

/-! The clauses of a line. A clause is what one flag or one bare word says, a flag together with
its value. Reading a line is cutting it into clauses, without any regard to what was read so far,
and following them from left to right. What a clause can do to the arguments is said once, and what
every clause keeps is kept by the whole line. -/

namespace RestShell

inductive Clause where
  | redirect (r : Redirect)
  | switch (s : Switch)
  | valued (flag : ValueFlag) (value : String)
  | bare (word : String)
deriving DecidableEq, Repr

namespace Clause

/-- The clauses of unbundled words, if no flag at their end lacks its value. -/
def ofWords? : List String → Option (List Clause)
  | [] => some []
  | word :: rest =>
    match Item.ofWord word with
    | .blank => ofWords? rest
    | .redirect r => (ofWords? rest).map (.redirect r :: ·)
    | .switch s => (ofWords? rest).map (.switch s :: ·)
    | .valued flag =>
      match rest with
      | [] => none
      | value :: rest => (ofWords? rest).map (.valued flag value :: ·)
    | .bare => (ofWords? rest).map (.bare word :: ·)

/-- The clauses of a line's words. -/
def ofLine? (words : List String) : Option (List Clause) := ofWords? (words.flatMap unbundle)

/-- The values that a flag has in some clauses, in their order. -/
def valuesOf (flag : ValueFlag) (clauses : List Clause) : List String :=
  clauses.filterMap fun
    | .valued f value => if f = flag then some value else none
    | _ => none

@[simp] theorem valuesOf_append (flag : ValueFlag) (xs ys : List Clause) :
    valuesOf flag (xs ++ ys) = valuesOf flag xs ++ valuesOf flag ys := List.filterMap_append

/-- The bare words among some clauses, in their order. -/
def bareWords (clauses : List Clause) : List String :=
  clauses.filterMap fun
    | .bare word => some word
    | _ => none

@[simp] theorem bareWords_append (xs ys : List Clause) :
    bareWords (xs ++ ys) = bareWords xs ++ bareWords ys := List.filterMap_append

@[simp] theorem bareWords_nil : bareWords [] = [] := rfl

@[simp] theorem bareWords_redirect (r : Redirect) (clauses : List Clause) :
    bareWords (.redirect r :: clauses) = bareWords clauses := rfl

@[simp] theorem bareWords_switch (s : Switch) (clauses : List Clause) :
    bareWords (.switch s :: clauses) = bareWords clauses := rfl

@[simp] theorem bareWords_valued (flag : ValueFlag) (value : String) (clauses : List Clause) :
    bareWords (.valued flag value :: clauses) = bareWords clauses := rfl

@[simp] theorem bareWords_bare (word : String) (clauses : List Clause) :
    bareWords (.bare word :: clauses) = word :: bareWords clauses := rfl

theorem mem_bareWords {word : String} {clauses : List Clause} :
    word ∈ bareWords clauses ↔ .bare word ∈ clauses := by
  rw [bareWords, List.mem_filterMap]
  constructor
  · rintro ⟨c, hc, hword⟩
    cases c <;> cases hword
    exact hc
  · exact fun h => ⟨.bare word, h, rfl⟩

section OfWords
variable {word : String} {rest : List String}

/-- The clause that a word begins, before those of the words behind it. -/
theorem ofWords?_cons (word : String) (rest : List String) :
    ofWords? (word :: rest) = match Item.ofWord word with
      | .blank => ofWords? rest
      | .redirect r => (ofWords? rest).map (.redirect r :: ·)
      | .switch s => (ofWords? rest).map (.switch s :: ·)
      | .valued flag =>
        match rest with
        | [] => none
        | value :: rest => (ofWords? rest).map (.valued flag value :: ·)
      | .bare => (ofWords? rest).map (.bare word :: ·) := by
  cases hword : Item.ofWord word <;> cases rest <;> simp only [ofWords?, hword]

theorem ofWords?_blank (h : Item.ofWord word = .blank) (rest : List String) :
    ofWords? (word :: rest) = ofWords? rest := by
  rw [ofWords?_cons, h]

theorem ofWords?_redirect {r : Redirect} (h : Item.ofWord word = .redirect r)
    (rest : List String) :
    ofWords? (word :: rest) = (ofWords? rest).map (.redirect r :: ·) := by
  rw [ofWords?_cons, h]

theorem ofWords?_switch {s : Switch} (h : Item.ofWord word = .switch s) (rest : List String) :
    ofWords? (word :: rest) = (ofWords? rest).map (.switch s :: ·) := by
  rw [ofWords?_cons, h]

theorem ofWords?_missing {flag : ValueFlag} (h : Item.ofWord word = .valued flag) :
    ofWords? [word] = none := by
  rw [ofWords?_cons, h]

theorem ofWords?_valued {flag : ValueFlag} (h : Item.ofWord word = .valued flag) (value : String)
    (rest : List String) :
    ofWords? (word :: value :: rest) = (ofWords? rest).map (.valued flag value :: ·) := by
  rw [ofWords?_cons, h]

theorem ofWords?_bare (h : Item.ofWord word = .bare) (rest : List String) :
    ofWords? (word :: rest) = (ofWords? rest).map (.bare word :: ·) := by
  rw [ofWords?_cons, h]

/-- Words behind whole clauses are cut as they are alone. -/
theorem ofWords?_append {before : List String} {clauses : List Clause}
    (h : ofWords? before = some clauses) (after : List String) :
    ofWords? (before ++ after) = (ofWords? after).map (clauses ++ ·) := by
  -- on the clauses: each takes its words from the front of both
  fun_induction ofWords? before generalizing clauses with
  | case1 =>
    cases h
    simp
  | case2 word rest hword ih =>
    rw [List.cons_append, ofWords?_blank hword]
    exact ih h
  | case3 word rest r hword ih =>
    obtain ⟨ds, hds, rfl⟩ := Option.map_eq_some_iff.1 h
    rw [List.cons_append, ofWords?_redirect hword, ih hds, Option.map_map]
    rfl
  | case4 word rest s hword ih =>
    obtain ⟨ds, hds, rfl⟩ := Option.map_eq_some_iff.1 h
    rw [List.cons_append, ofWords?_switch hword, ih hds, Option.map_map]
    rfl
  | case5 word flag hword => cases h
  | case6 word flag hword value rest ih =>
    obtain ⟨ds, hds, rfl⟩ := Option.map_eq_some_iff.1 h
    rw [List.cons_append, List.cons_append, ofWords?_valued hword, ih hds, Option.map_map]
    rfl
  | case7 word rest hword ih =>
    obtain ⟨ds, hds, rfl⟩ := Option.map_eq_some_iff.1 h
    rw [List.cons_append, ofWords?_bare hword, ih hds, Option.map_map]
    rfl

theorem ne_empty_of_bare (h : Item.ofWord word = .bare) : word ≠ "" := by
  rintro rfl
  cases h

/-- A bare word is not empty. -/
theorem bare_ne_empty {words : List String} {clauses : List Clause}
    (h : ofWords? words = some clauses) : ∀ word, .bare word ∈ clauses → word ≠ "" := by
  fun_induction ofWords? words generalizing clauses with
  | case1 =>
    cases h
    simp
  | case2 word rest hword ih => exact ih h
  | case3 word rest r hword ih =>
    obtain ⟨ds, hds, rfl⟩ := Option.map_eq_some_iff.1 h
    simpa using ih hds
  | case4 word rest s hword ih =>
    obtain ⟨ds, hds, rfl⟩ := Option.map_eq_some_iff.1 h
    simpa using ih hds
  | case5 word flag hword => cases h
  | case6 word flag hword value rest ih =>
    obtain ⟨ds, hds, rfl⟩ := Option.map_eq_some_iff.1 h
    simpa using ih hds
  | case7 word rest hword ih =>
    obtain ⟨ds, hds, rfl⟩ := Option.map_eq_some_iff.1 h
    intro w hw
    rcases List.mem_cons.1 hw with hw | hw
    · cases hw
      exact ne_empty_of_bare hword
    · exact ih hds w hw

end OfWords

end Clause

namespace Arguments
variable {data : Assoc Json.Value} {a b : Arguments} {words : List String}

/-- The arguments with one more clause. -/
def follow (data : Assoc Json.Value) (a : Arguments) : Clause → Except LineError Arguments
  | .redirect r => .ok { a with redirect := some r }
  | .switch s => .ok (a.turn s)
  | .valued flag value => (a.take flag value).mapError .grammar
  | .bare word => a.bare data word

def followAll (data : Assoc Json.Value) (a : Arguments) (clauses : List Clause) :
    Except LineError Arguments := clauses.foldlM (follow data) a

@[simp] theorem followAll_nil (a : Arguments) : followAll data a [] = .ok a := rfl

@[simp] theorem followAll_cons (a : Arguments) (c : Clause) (clauses : List Clause) :
    followAll data a (c :: clauses) = a.follow data c >>= (followAll data · clauses) := rfl

theorem followAll_append (a : Arguments) (xs ys : List Clause) :
    followAll data a (xs ++ ys) = followAll data a xs >>= (followAll data · ys) :=
  List.foldlM_append

theorem follow_bind_eq_ok_iff {c : Clause} {rest : List String}
    (ih : ∀ a, scan data a rest = .ok b ↔
      ∃ clauses, Clause.ofWords? rest = some clauses ∧ followAll data a clauses = .ok b)
    (a : Arguments) : a.follow data c >>= (scan data · rest) = .ok b ↔
      ∃ clauses, (Clause.ofWords? rest).map (c :: ·) = some clauses ∧
        followAll data a clauses = .ok b := by
  simp only [Option.map_eq_some_iff]
  constructor
  · intro h
    obtain ⟨next, hnext, hrest⟩ := exists_of_bind_eq_ok h
    obtain ⟨clauses, hclauses, hfollow⟩ := (ih next).1 hrest
    refine ⟨c :: clauses, ⟨clauses, hclauses, rfl⟩, ?_⟩
    rw [followAll_cons, hnext]
    exact hfollow
  · rintro ⟨_, ⟨clauses, hclauses, rfl⟩, hfollow⟩
    rw [followAll_cons] at hfollow
    obtain ⟨next, hnext, hrest⟩ := exists_of_bind_eq_ok hfollow
    rw [hnext]
    exact (ih next).2 ⟨clauses, hclauses, hrest⟩

/-- Reading words is following their clauses. -/
theorem scan_eq_ok_iff : scan data a words = .ok b ↔
    ∃ clauses, Clause.ofWords? words = some clauses ∧ followAll data a clauses = .ok b := by
  fun_induction Clause.ofWords? words generalizing a with
  | case1 => simp [scan]
  | case2 word rest hword ih =>
    rw [scan_cons_blank hword]
    exact ih
  | case3 word rest r hword ih =>
    rw [scan_cons_redirect hword]
    exact follow_bind_eq_ok_iff (c := .redirect r) (fun _ => ih) a
  | case4 word rest s hword ih =>
    rw [scan_cons_switch hword]
    exact follow_bind_eq_ok_iff (c := .switch s) (fun _ => ih) a
  | case5 word flag hword => simp [scan_missing hword]
  | case6 word flag hword value rest ih =>
    rw [scan_cons_valued hword]
    exact follow_bind_eq_ok_iff (c := .valued flag value) (fun _ => ih) a
  | case7 word rest hword ih =>
    rw [scan_cons_bare hword]
    exact follow_bind_eq_ok_iff (c := .bare word) (fun _ => ih) a

theorem read_eq_ok_iff {color formatted : Bool} : read data color formatted words = .ok a ↔
    ∃ clauses, Clause.ofLine? words = some clauses ∧
      followAll data { color, formatted } clauses = .ok a := scan_eq_ok_iff

/-- What following a clause can do. -/
inductive Follows (data : Assoc Json.Value) (a : Arguments) : Clause → Arguments → Prop where
  | redirect (r : Redirect) : Follows data a (.redirect r) { a with redirect := some r }
  | switch (s : Switch) : Follows data a (.switch s) (a.turn s)
  | redirectTo (mode : WriteMode) (path : String) :
      Follows data a (.valued (.redirect mode) path) { a with redirect := some ⟨path, mode⟩ }
  | basic {value : String} : ':' ∈ value.toList →
      Follows data a (.valued .basic value) { a with credential := some value }
  | query {value : String} : '=' ∈ value.toList → '&' ∉ value.toList →
      Follows data a (.valued .query value) { a with query := a.query ++ [value] }
  | header {value : String} {name text : List Char} : cutHeader value.toList = some (name, text) →
      Follows data a (.valued .header value) (a.setHeader (.ofList name) (.ofList text))
  | json {value : String} {fields : Assoc Json.Value} : Json.read value = .ok (.object fields) →
      Follows data a (.valued .json value) { a with params := a.params.merge fields }
  | url (value : String) : Follows data a (.valued .url value) { a with url := some value }
  | capture {value key path : String} : Text.cut '=' value = some (key, path) →
      Follows data a (.valued .capture value)
        { a with captures := a.captures ++ [⟨key, path⟩] }
  | extract (value : String) :
      Follows data a (.valued .extract value) { a with extract := a.extract ++ [value] }
  | exclude (value : String) :
      Follows data a (.valued .exclude value) { a with exclude := a.exclude ++ [value] }
  | verb {word : String} : a.verb = none →
      Follows data a (.bare word) { a with verb := some (canonicalVerb (Text.lower word)) }
  | path {word verb : String} : a.verb = some verb → isHttpVerb verb = true → a.path = none →
      Follows data a (.bare word) { a with path := some (Path.normalize false false word) }
  | param {word verb : String} {params : Assoc Json.Value} : a.verb = some verb →
      isHttpVerb verb = true → a.path ≠ none → Parameter.add data word a.params = .ok params →
      Follows data a (.bare word) { a with params }
  | operand {word verb : String} : a.verb = some verb → isHttpVerb verb = false →
      Follows data a (.bare word) { a with operands := a.operands ++ [word] }

theorem isPair_iff {value : String} :
    isPair value = true ↔ '=' ∈ value.toList ∧ '&' ∉ value.toList := by
  simp [isPair, Text.has]

theorem follows_of_take {flag : ValueFlag} {value : String} (h : a.take flag value = .ok b) :
    Follows data a (.valued flag value) b := by
  unfold take at h
  cases flag with
  | redirect mode =>
    cases h
    exact .redirectTo mode value
  | basic =>
    dsimp only at h
    split at h
    · rename_i hcolon
      cases h
      exact .basic (by simpa [Text.has] using hcolon)
    · cases h
  | file =>
    dsimp only at h
    split at h <;> cases h
  | query =>
    dsimp only at h
    split at h
    · rename_i hpair
      cases h
      exact .query (isPair_iff.1 hpair).1 (isPair_iff.1 hpair).2
    · cases h
  | header =>
    dsimp only at h
    split at h
    · rename_i name text hcut
      cases h
      exact .header hcut
    · cases h
  | json =>
    dsimp only at h
    split at h
    · cases h
    · rename_i fields hread
      cases h
      exact .json hread
    · cases h
  | url =>
    cases h
    exact .url value
  | capture =>
    dsimp only at h
    split at h
    · rename_i key path hcut
      cases h
      exact .capture hcut
    · cases h
  | extract =>
    cases h
    exact .extract value
  | exclude =>
    cases h
    exact .exclude value

theorem follows_of_bare {word : String} (h : a.bare data word = .ok b) :
    Follows data a (.bare word) b := by
  obtain ⟨hnone, rfl⟩ | ⟨verb, hverb, ⟨hhttp, hpath, rfl⟩ | ⟨hhttp, hpath, params, rfl⟩ |
    ⟨hhttp, rfl⟩⟩ := bare_cases h
  · exact .verb hnone
  · exact .path hverb hhttp hpath
  · refine .param hverb hhttp hpath ?_
    obtain ⟨path, hsome⟩ := Option.ne_none_iff_exists'.1 hpath
    simp only [bare, hverb, hhttp, if_true, hsome] at h
    cases hadd : Parameter.add data word a.params with
    | error e =>
      rw [hadd] at h
      cases h
    | ok added =>
      rw [hadd] at h
      exact congrArg Except.ok (congrArg Arguments.params (Except.ok.inj h))
  · exact .operand hverb hhttp

theorem follows_of_follow {c : Clause} (h : a.follow data c = .ok b) : Follows data a c b := by
  cases c with
  | redirect r =>
    cases h
    exact .redirect r
  | switch s =>
    cases h
    exact .switch s
  | valued flag value =>
    cases ht : a.take flag value with
    | error fault =>
      rw [follow, ht] at h
      cases h
    | ok next =>
      rw [follow, ht] at h
      cases h
      exact follows_of_take ht
  | bare word => exact follows_of_bare h

/-- What holds of no clauses and the arguments before them, and is kept by each clause, holds of
all clauses and the arguments after them. -/
theorem followAll_invariant {P : List Clause → Arguments → Prop} {clauses : List Clause}
    (hstep : ∀ done c a b, c ∈ clauses → P done a → Follows data a c b → P (done ++ [c]) b)
    (ha : P [] a) (h : followAll data a clauses = .ok b) : P clauses b := by
  induction clauses using List.reverseRecOn generalizing b with
  | nil =>
    cases h
    exact ha
  | append_singleton done c ih =>
    rw [followAll_append] at h
    obtain ⟨next, hdone, hlast⟩ := exists_of_bind_eq_ok h
    obtain ⟨next', hc, hnil⟩ := exists_of_bind_eq_ok hlast
    cases hnil
    have hP : P done next :=
      ih (fun d e x y he => hstep d e x y (List.mem_append_left [c] he)) hdone
    exact hstep done c next b (by simp) hP (follows_of_follow hc)

end Arguments
end RestShell
