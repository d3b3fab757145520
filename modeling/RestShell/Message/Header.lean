import RestShell.Text.Case

/-! Headers. Those of a request are a list in which no two names are equal but for
ASCII case; setting a name drops the entry it had and adds one at the end. Those of a
reply come under lower-case names in sorted order, each with all of its values. -/

namespace RestShell

abbrev Headers := List (String × String)

namespace Headers

def get? (name : String) (h : Headers) : Option String :=
  (h.find? fun e => Text.sameName e.1 name).map Prod.snd

def put (name value : String) (h : Headers) : Headers :=
  (h.filter fun e => !Text.sameName e.1 name) ++ [(name, value)]

/-- Sets the given headers, first to last. -/
def putAll (h more : Headers) : Headers := more.foldl (fun acc e => acc.put e.1 e.2) h

/-- No two names are equal but for case. -/
def Distinct (h : Headers) : Prop := h.Pairwise fun a b => Text.sameName a.1 b.1 = false

theorem sameName_comm (a b : String) : Text.sameName a b = Text.sameName b a := by
  simp [Text.sameName, Bool.beq_comm]

theorem Distinct.put {h : Headers} (hd : h.Distinct) (name value : String) :
    (h.put name value).Distinct := by
  simp only [Distinct, Headers.put, List.pairwise_append]
  refine ⟨hd.filter _, by simp, ?_⟩
  intro e he f hf
  simp only [List.mem_singleton] at hf
  subst hf
  simpa using (List.mem_filter.1 he).2

theorem Distinct.putAll {h : Headers} (hd : h.Distinct) (more : Headers) :
    (h.putAll more).Distinct := by
  induction more generalizing h with
  | nil => exact hd
  | cons e r ih => exact ih (hd.put e.1 e.2)

end Headers

/-- The headers of a reply. -/
abbrev ReplyHeaders := List (String × List String)

namespace ReplyHeaders

/-- One more value, under the lower-case name at its place in the order. -/
def add (name value : String) : ReplyHeaders → ReplyHeaders
  | [] => [(name, [value])]
  | (n, vs) :: r =>
    if n = name then (n, vs ++ [value]) :: r
    else if name < n then (name, [value]) :: (n, vs) :: r
    else (n, vs) :: add name value r

/-- The headers of a list of names and values. -/
def ofPairs (pairs : List (String × String)) : ReplyHeaders :=
  pairs.foldl (fun h e => add (Text.asciiLower e.1) e.2 h) []

/-- The values under a name given in lower case. -/
def values (name : String) (h : ReplyHeaders) : List String :=
  match h.find? (·.1 == name) with
  | some e => e.2
  | none => []

/-- The first value under a name in any case. -/
def first? (name : String) (h : ReplyHeaders) : Option String :=
  (h.values (Text.asciiLower name)).head?

end ReplyHeaders
end RestShell
