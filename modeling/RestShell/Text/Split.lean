/-! Cutting texts at separators. `cut` divides at the first separator, `split`
at every one, and joining the pieces of a split gives the text back. -/

namespace RestShell

namespace Chars

/-- The text before and after the first `sep`, if there is one. -/
def cut (sep : Char) : List Char → Option (List Char × List Char)
  | [] => none
  | c :: r => if c = sep then some ([], r) else (cut sep r).map fun p => (c :: p.1, p.2)

/-- The pieces between the separators: one more than there are separators. -/
def split (sep : Char) : List Char → List (List Char)
  | [] => [[]]
  | c :: r =>
    if c = sep then [] :: split sep r
    else match split sep r with
      | [] => [[c]]
      | p :: ps => (c :: p) :: ps

/-- The pieces with one separator between neighbours. -/
def join (sep : Char) : List (List Char) → List Char
  | [] => []
  | [p] => p
  | p :: q :: ps => p ++ sep :: join sep (q :: ps)

/-- What follows `lead`, if the text starts with it. -/
def dropLead? : List Char → List Char → Option (List Char)
  | [], cs => some cs
  | _ :: _, [] => none
  | l :: ls, c :: cs => if l = c then dropLead? ls cs else none

theorem split_ne_nil (sep : Char) (cs : List Char) : split sep cs ≠ [] := by
  cases cs with
  | nil => simp [split]
  | cons c r =>
    simp only [split]
    split
    · simp
    · split <;> simp

theorem join_split (sep : Char) (cs : List Char) : join sep (split sep cs) = cs := by
  induction cs with
  | nil => rfl
  | cons c r ih =>
    simp only [split]
    split
    · rename_i h
      match hs : split sep r with
      | [] => exact absurd hs (split_ne_nil sep r)
      | p :: ps => rw [hs] at ih; simp [join, ih, h]
    · match hs : split sep r with
      | [] => exact absurd hs (split_ne_nil sep r)
      | [p] => rw [hs] at ih; simp only [join] at ih ⊢; rw [ih]
      | p :: q :: ps => rw [hs] at ih; simp only [join, List.cons_append] at ih ⊢; rw [ih]

theorem cut_eq_some {sep : Char} {cs a b : List Char} (h : cut sep cs = some (a, b)) :
    cs = a ++ sep :: b ∧ sep ∉ a := by
  induction cs generalizing a with
  | nil => simp [cut] at h
  | cons c r ih =>
    simp only [cut] at h
    split at h
    · simp only [Option.some.injEq, Prod.mk.injEq] at h; simp_all
    · rename_i hc
      obtain ⟨⟨x, y⟩, hp, he⟩ := Option.map_eq_some_iff.1 h
      simp only [Prod.mk.injEq] at he
      obtain ⟨rfl, rfl⟩ := he
      obtain ⟨rfl, hn⟩ := ih hp
      exact ⟨rfl, by simp [hn, Ne.symm hc]⟩

theorem cut_eq_none_iff {sep : Char} {cs : List Char} : cut sep cs = none ↔ sep ∉ cs := by
  induction cs with
  | nil => simp [cut]
  | cons c r ih =>
    simp only [cut]
    split
    · simp_all
    · rename_i hc; simp [ih, Ne.symm hc]

end Chars

namespace Text

def cut (sep : Char) (s : String) : Option (String × String) :=
  (Chars.cut sep s.toList).map fun p => (.ofList p.1, .ofList p.2)

/-- `cut`, with an empty second part when there is no separator. -/
def cutD (sep : Char) (s : String) : String × String := (cut sep s).getD (s, "")

def split (sep : Char) (s : String) : List String :=
  (Chars.split sep s.toList).map .ofList

/-- The texts with `sep` between neighbours. -/
def join (sep : Char) (ps : List String) : String :=
  .ofList (Chars.join sep (ps.map (·.toList)))

def dropLead? (lead s : String) : Option String :=
  (Chars.dropLead? lead.toList s.toList).map .ofList

/-- What precedes the last character, if that character is `c`. -/
def dropLast? (c : Char) (s : String) : Option String :=
  match s.toList.reverse with
  | l :: r => if l = c then some (.ofList r.reverse) else none
  | [] => none

/-- The text without one leading `c`, if it has one. -/
def dropOne (c : Char) (s : String) : String :=
  match s.toList with
  | l :: r => if l = c then .ofList r else s
  | [] => s

def hasLead (lead s : String) : Bool := lead.toList.isPrefixOf s.toList

def has (c : Char) (s : String) : Bool := s.toList.contains c

def startsWith (c : Char) (s : String) : Bool := s.toList.head? == some c

def endsWith (c : Char) (s : String) : Bool := s.toList.getLast? == some c

end Text
end RestShell
