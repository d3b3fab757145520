import RestShell.Proofs.Address.Normal
import RestShell.Proofs.Line.Clauses
import RestShell.Proofs.Text.LowerCase

/-! Arguments that a line can be read into. Each field holds only what its flags and words let
through, whatever their order on the line: every clause keeps that, and so does the line. -/

namespace RestShell

theorem Text.split_join {sep : Char} {ps : List String} (hne : ps ≠ [])
    (h : ∀ p ∈ ps, sep ∉ p.toList) : Text.split sep (Text.join sep ps) = ps := by
  have hchars : Chars.split sep (Chars.join sep (ps.map (·.toList))) = ps.map (·.toList) := by
    refine Chars.split_join (by simpa using hne) fun p hp => ?_
    obtain ⟨s, hs, rfl⟩ := List.mem_map.1 hp
    exact h s hs
  rw [Text.split, Text.join, String.toList_ofList, hchars, List.map_map]
  simp [Function.comp_def]

theorem Path.trim_normalize (path : String) :
    Text.trim (Path.normalize false false path) = Path.normalize false false path := by
  rw [← String.toList_inj, Text.toList_trim, Path.toList_normalize, Chars.trim_normalize]

/-- Short forms of verbs. -/
def verbAliases : List String := ["del", "opt", "opts", "?"]

/-- A verb as it is kept: in lower case and in its long form. -/
def IsVerb (verb : String) : Prop := verb ≠ "" ∧ Text.lower verb = verb ∧ verb ∉ verbAliases

theorem isVerb_canonicalVerb {word : String} (h : word ≠ "") :
    IsVerb (canonicalVerb (Text.lower word)) := by
  have hlong : ∀ verb ∈ ["delete", "options", "help"], IsVerb verb := by
    unfold IsVerb
    decide +kernel
  generalize hs : Text.lower word = s
  unfold canonicalVerb
  split
  · exact hlong "delete" (by decide)
  · exact hlong "options" (by decide)
  · exact hlong "options" (by decide)
  · exact hlong "help" (by decide)
  · rename_i hdel hopts hopt hhelp
    refine ⟨hs ▸ Text.lower_ne_empty h, ?_, ?_⟩
    · rw [← hs, Text.lower_lower]
    · simp only [verbAliases, List.mem_cons, List.not_mem_nil, or_false, not_or]
      exact ⟨hdel, hopt, hopts, hhelp⟩

namespace Arguments
variable {data : Assoc Json.Value} {color formatted : Bool} {a : Arguments} {said : List Clause}

/-- The verb that some clauses give: their first bare word. -/
def verbOf (said : List Clause) : Option String :=
  (Clause.bareWords said).head?.map (canonicalVerb <| Text.lower ·)

/-- The mapping that a text of JSON stands for, or none at all. -/
def mappingOf (text : String) : Assoc Json.Value :=
  match Json.read text with
  | .ok (.object fields) => fields
  | _ => []

/-- The parameters that JSON flags give by themselves. -/
def jsonParams (said : List Clause) : Assoc Json.Value :=
  (Clause.valuesOf .json said).foldl (fun params text => params.merge (mappingOf text)) []

/-- No word was taken for a path or a parameter: JSON flags alone gave parameters, and the bare
words are the verb and its operands. -/
@[mk_iff]
structure Unsent (said : List Clause) (a : Arguments) : Prop where
  path : a.path = none
  params : a.params = jsonParams said
  operands : a.operands = (Clause.bareWords said).tail

/-- Arguments that some clauses can be read into. -/
structure WellFormed (said : List Clause) (a : Arguments) : Prop where
  credential : ∀ c, a.credential = some c → ':' ∈ c.toList
  query : ∀ q ∈ a.query, '=' ∈ q.toList ∧ '&' ∉ q.toList
  query_join : a.query ≠ [] → Text.split '&' (Text.join '&' a.query) = a.query
  header_lower : ∀ h ∈ a.headers, Text.lower h.1 = h.1
  header_distinct : a.headers.Distinct
  verb : ∀ verb, a.verb = some verb → IsVerb verb
  unsent : a.isHttp = false → Unsent said a
  path : ∀ p, a.path = some p → ¬ ['/', '/'] <:+: p.toList ∧ Text.trim p = p
  operands : a.operands ≠ [] → ∃ verb, a.verb = some verb ∧ isHttpVerb verb = false
  extract : a.extract = Clause.valuesOf .extract said
  exclude : a.exclude = Clause.valuesOf .exclude said
  captures : a.captures.map (fun c => some (c.key, c.path)) =
    (Clause.valuesOf .capture said).map (Text.cut '=')

section Fields
variable (h : followAll data { color, formatted } said = .ok a)
include h

theorem credential_colon : ∀ c, a.credential = some c → ':' ∈ c.toList := by
  refine followAll_invariant (P := fun _ a => ∀ c, a.credential = some c → ':' ∈ c.toList)
    ?_ (by simp) h
  intro _ c a b _ ha hf
  cases hf with
  | basic hcolon =>
    rintro _ ⟨⟩
    exact hcolon
  | switch s => cases s <;> exact ha
  | _ => exact ha

theorem query_pairs : ∀ q ∈ a.query, '=' ∈ q.toList ∧ '&' ∉ q.toList := by
  refine followAll_invariant (P := fun _ a => ∀ q ∈ a.query, '=' ∈ q.toList ∧ '&' ∉ q.toList)
    ?_ (by simp) h
  intro _ c a b _ ha hf
  cases hf with
  | query heq hamp => exact List.forall_mem_append.2 ⟨ha, by simpa using ⟨heq, hamp⟩⟩
  | switch s => cases s <;> exact ha
  | _ => exact ha

omit h in
theorem setHeader_lower {name value : String} {b : Arguments}
    (hb : (∀ h ∈ b.headers, Text.lower h.1 = h.1) ∧ b.headers.Distinct) :
    (∀ h ∈ (b.setHeader name value).headers, Text.lower h.1 = h.1) ∧
      (b.setHeader name value).headers.Distinct := by
  obtain ⟨hlower, hdistinct⟩ := hb
  have hkept : ∀ h ∈ b.headers.filter (fun h => h.1 != Text.lower name),
      h ∈ b.headers ∧ h.1 ≠ Text.lower name := by
    intro h hh
    simpa using List.mem_filter.1 hh
  constructor
  · refine List.forall_mem_append.2 ⟨fun h hh => hlower h (hkept h hh).1, ?_⟩
    simpa using Text.lower_lower name
  · unfold setHeader Assoc.Distinct Assoc.keys
    rw [List.map_append, List.nodup_append]
    refine ⟨hdistinct.sublist (List.filter_sublist.map _), by simp, ?_⟩
    intro m hm n hn
    obtain ⟨e, he, rfl⟩ := List.mem_map.1 hm
    rw [List.mem_singleton.1 hn]
    exact (hkept e he).2

theorem headers_lower_distinct :
    (∀ h ∈ a.headers, Text.lower h.1 = h.1) ∧ a.headers.Distinct := by
  refine followAll_invariant
    (P := fun _ a => (∀ h ∈ a.headers, Text.lower h.1 = h.1) ∧ a.headers.Distinct)
    (fun _ c a b _ ha hf => ?_) ?_ h
  · cases hf with
    | header => exact setHeader_lower ha
    | switch s =>
      cases s with
      | form => exact setHeader_lower ha
      | _ => exact ha
    | _ => exact ha
  · exact ⟨by simp, List.nodup_nil⟩

omit h in
/-- A clause keeps the verb, or gives it as the first bare word. -/
theorem verb_of_follows {done : List Clause} {c : Clause} {a b : Arguments}
    (ha : a.verb = verbOf done) (hf : Follows data a c b) : b.verb = verbOf (done ++ [c]) := by
  rw [verbOf] at ha
  rw [verbOf, Clause.bareWords_append]
  cases hwords : Clause.bareWords done with
  | nil =>
    rw [hwords] at ha
    cases hf with
    | verb => rfl
    | path hverb | param hverb | operand hverb => simp [ha] at hverb
    | switch s => cases s <;> simpa [turn, setHeader] using ha
    | _ => simpa [setHeader] using ha
  | cons w rest =>
    rw [hwords] at ha
    cases hf with
    | verb hnone => simp [ha] at hnone
    | switch s => cases s <;> simpa [turn, setHeader] using ha
    | _ => simpa [setHeader] using ha

theorem verb_eq : a.verb = verbOf said := by
  refine followAll_invariant (P := fun said a => a.verb = verbOf said) ?_ rfl h
  exact fun _ _ _ _ _ => verb_of_follows

theorem isVerb_verb (hbare : ∀ word, .bare word ∈ said → word ≠ "") :
    ∀ verb, a.verb = some verb → IsVerb verb := by
  intro verb hverb
  rw [verb_eq h] at hverb
  obtain ⟨word, hword, rfl⟩ := Option.map_eq_some_iff.1 hverb
  exact isVerb_canonicalVerb (hbare word (Clause.mem_bareWords.1 (List.mem_of_mem_head? hword)))

theorem path_normal :
    ∀ p, a.path = some p → ¬ ['/', '/'] <:+: p.toList ∧ Text.trim p = p := by
  refine followAll_invariant
    (P := fun _ a => ∀ p, a.path = some p → ¬ ['/', '/'] <:+: p.toList ∧ Text.trim p = p)
    ?_ (by simp) h
  intro _ c a b _ ha hf
  cases hf with
  | @path word =>
    rintro _ ⟨⟩
    refine ⟨?_, Path.trim_normalize word⟩
    rw [Path.toList_normalize]
    exact (Chars.spaced_normalize false false word.toList).no_double_slash
  | switch s => cases s <;> exact ha
  | _ => exact ha

theorem operands_of_command :
    a.operands = [] ∨ ∃ verb, a.verb = some verb ∧ isHttpVerb verb = false := by
  refine followAll_invariant
    (P := fun _ a => a.operands = [] ∨ ∃ verb, a.verb = some verb ∧ isHttpVerb verb = false)
    ?_ (.inl rfl) h
  intro _ c a b _ ha hf
  cases hf with
  | @verb word hnone =>
    -- without a verb there is no operand yet
    refine ha.imp_right ?_
    rintro ⟨verb, hverb, -⟩
    rw [hnone] at hverb
    cases hverb
  | @operand word verb hverb hhttp => exact .inr ⟨verb, hverb, hhttp⟩
  | switch s => cases s <;> exact ha
  | _ => exact ha

omit h in
theorem jsonParams_concat (done : List Clause) (c : Clause) : jsonParams (done ++ [c]) =
    (Clause.valuesOf .json [c]).foldl (fun params text => params.merge (mappingOf text))
      (jsonParams done) := by
  rw [jsonParams, Clause.valuesOf_append, List.foldl_append]
  rfl

/-- Without a verb that is sent nothing is taken for a path or a parameter. -/
theorem request_or_unsent : a.isHttp = true ∨ Unsent said a := by
  refine (followAll_invariant
    (P := fun said a => a.verb = verbOf said ∧ (a.isHttp = true ∨ Unsent said a))
    ?_ ⟨rfl, .inr ⟨rfl, rfl, rfl⟩⟩ h).2
  rintro done c a b _ ⟨hhead, ha⟩ hf
  refine ⟨verb_of_follows hhead hf, ?_⟩
  rw [unsent_iff] at ha
  rw [unsent_iff, jsonParams_concat, Clause.bareWords_append]
  cases hf with
  | @verb word hnone =>
    -- the first bare word: none is an operand yet
    have hfirst : Clause.bareWords done = [] :=
      List.head?_eq_none_iff.1 (Option.map_eq_none_iff.1 (hhead.symm.trans hnone))
    obtain ⟨hpath, hparams, hoperands⟩ := ha.resolve_left (by simp [isHttp, hnone])
    exact .inr ⟨hpath, hparams, by simpa [hfirst] using hoperands⟩
  | path hverb hhttp | param hverb hhttp => exact .inl (by simp [isHttp, hverb, hhttp])
  | @operand word verb hverb hhttp =>
    have hbehind : Clause.bareWords done ≠ [] := by
      intro hnil
      simp [verbOf, hnil, hverb] at hhead
    refine ha.imp_right fun ⟨hpath, hparams, hoperands⟩ => ⟨hpath, hparams, ?_⟩
    rw [List.tail_append_of_ne_nil hbehind, ← hoperands]
    rfl
  | @json text fields hread =>
    refine ha.imp_right fun ⟨hpath, hparams, hoperands⟩ => ⟨hpath, ?_, ?_⟩
    · have hmapping : mappingOf text = fields := by rw [mappingOf, hread]
      simp [Clause.valuesOf, hparams, hmapping]
    · simpa using hoperands
  | switch s => cases s <;> simpa [Clause.valuesOf, isHttp, turn, setHeader] using ha
  | _ => simpa [Clause.valuesOf, isHttp, setHeader] using ha

theorem values_in_order : a.extract = Clause.valuesOf .extract said ∧
    a.exclude = Clause.valuesOf .exclude said ∧
    a.captures.map (fun c => some (c.key, c.path)) =
      (Clause.valuesOf .capture said).map (Text.cut '=') := by
  refine followAll_invariant (P := fun said a => a.extract = Clause.valuesOf .extract said ∧
    a.exclude = Clause.valuesOf .exclude said ∧
    a.captures.map (fun c => some (c.key, c.path)) =
      (Clause.valuesOf .capture said).map (Text.cut '=')) ?_ ⟨rfl, rfl, rfl⟩ h
  rintro done c a b _ ⟨hextract, hexclude, hcaptures⟩ hf
  simp only [Clause.valuesOf_append, List.map_append, ← hextract, ← hexclude, ← hcaptures]
  cases hf with
  | extract | exclude => simp [Clause.valuesOf]
  | capture hcut => simp [Clause.valuesOf, hcut]
  | switch s => cases s <;> simp [Clause.valuesOf, turn, setHeader]
  | _ => simp [Clause.valuesOf, setHeader]

end Fields

/-- A line that is read at all is read into well-formed arguments. -/
theorem read_wellFormed {words : List String} (h : read data color formatted words = .ok a) :
    ∃ said, Clause.ofLine? words = some said ∧ WellFormed said a := by
  obtain ⟨said, hsaid, hfollow⟩ := read_eq_ok_iff.1 h
  have hquery := query_pairs hfollow
  have hheaders := headers_lower_distinct hfollow
  have hvalues := values_in_order hfollow
  exact ⟨said, hsaid, {
    credential := credential_colon hfollow
    query := hquery
    query_join := fun hne => Text.split_join hne fun q hq => (hquery q hq).2
    header_lower := hheaders.1
    header_distinct := hheaders.2
    verb := isVerb_verb hfollow (Clause.bare_ne_empty hsaid)
    unsent := fun hhttp => (request_or_unsent hfollow).resolve_left (by simp [hhttp])
    path := path_normal hfollow
    operands := (operands_of_command hfollow).resolve_left
    extract := hvalues.1
    exclude := hvalues.2.1
    captures := hvalues.2.2 }⟩

/-- Flags before, between and behind the words, a verb in capitals and in its short form, a path
with blanks and slashes to spare, and a header set twice. -/
theorem read_wellFormed_mixed :
    let words := ["-H", "X-Trace: 1", "DEL", "-Q", "a=b", " //users//", "name=ada", "-B", "jo:pw",
      "-H", "x-trace: 2", "-rx", "items", "-j", "\x7b\"name\":\"eve\"\x7d", "-x", "total",
      "-X", "id", "-Q", "c=", "-d", "id+=items.0.id"]
    let a : Arguments :=
      { verb := some "delete", path := some "/users/", params := [("name", .string "eve")]
        credential := some "jo:pw", headers := [("x-trace", "2")], query := ["a=b", "c="]
        captures := [⟨"id+", "items.0.id"⟩], extract := ["items", "total"], exclude := ["id"]
        formatted := false }
    read [] false true words = .ok a ∧
      ∃ said, Clause.ofLine? words = some said ∧ WellFormed said a := by
  intro words a
  have h : read [] false true words = .ok a := by decide +kernel
  exact ⟨h, read_wellFormed h⟩

end Arguments
end RestShell
