import RestShell.Proofs.Address.BaseUrl

/-! What a URL has behind its host: a path, and behind their marks parameters of its last segment, a
query and a fragment. Every text that begins with a slash is put together of such parts in one way,
for each part ends at the first mark of the next. -/

namespace RestShell
namespace Chars

/-- A part behind its mark, and nothing where the mark is not written. -/
def opened (mark : Char) : Option (List Char) → List Char
  | none => []
  | some part => mark :: part

section Opened
variable {mark c : Char} {a b : List Char} {o o' : Option (List Char)}

@[simp] theorem opened_none (mark : Char) : opened mark none = [] := rfl

@[simp] theorem opened_some (mark : Char) (part : List Char) :
    opened mark (some part) = mark :: part := rfl

theorem mem_opened : c ∈ opened mark o ↔ ∃ part, o = some part ∧ (c = mark ∨ c ∈ part) := by
  cases o <;> simp

theorem notMem_opened (hmark : c ≠ mark) (hpart : ∀ part, o = some part → c ∉ part) :
    c ∉ opened mark o := by
  rw [mem_opened]
  rintro ⟨part, ho, hc | hc⟩
  · exact hmark hc
  · exact hpart part ho hc

theorem cut_opened (h : mark ∉ a) (o : Option (List Char)) :
    cut mark (a ++ opened mark o) = o.map (a, ·) := by
  cases o with
  | none => simpa using cut_eq_none_iff.2 h
  | some part => exact cut_append h part

theorem cut_opened_getD (h : mark ∉ a) (o : Option (List Char)) :
    (cut mark (a ++ opened mark o)).getD (a ++ opened mark o, []) = (a, o.getD []) := by
  rw [cut_opened h]
  cases o <;> simp

theorem exists_opened (mark : Char) (cs : List Char) :
    ∃ a o, cs = a ++ opened mark o ∧ mark ∉ a := by
  cases h : cut mark cs with
  | none => exact ⟨cs, none, by simp, cut_eq_none_iff.1 h⟩
  | some p => exact ⟨p.1, some p.2, cut_eq_some h⟩

theorem opened_cancel (ha : mark ∉ a) (hb : mark ∉ b)
    (h : a ++ opened mark o = b ++ opened mark o') : a = b ∧ o = o' := by
  have hcut := congrArg (cut mark) h
  rw [cut_opened ha, cut_opened hb] at hcut
  cases o <;> cases o' <;> simp_all

end Opened

/-- The last slash of a path, and the segment behind it. -/
theorem exists_segment {cs : List Char} (h : '/' ∈ cs) : ∃ a b, cs = a ++ '/' :: b ∧ '/' ∉ b := by
  obtain ⟨r, o, hcs, hr⟩ := exists_opened '/' cs.reverse
  cases o with
  | none =>
    rw [opened_none, List.append_nil] at hcs
    exact absurd (List.mem_reverse.2 h) (hcs ▸ hr)
  | some front =>
    refine ⟨front.reverse, r.reverse, ?_, by simpa using hr⟩
    simpa using congrArg List.reverse hcs

end Chars

namespace Url
open Chars

/-- What is written behind the host, divided at its marks. -/
structure Target where
  path : List Char
  params : Option (List Char)
  query : Option (List Char)
  fragment : Option (List Char)

namespace Target

/-- The parts put together again. -/
def text (g : Target) : List Char :=
  g.path ++ opened ';' g.params ++ opened '?' g.query ++ opened '#' g.fragment

/-- Each part ends at the first mark of the next one: the first `#`, the first `?` before it, and
before that the first `;` of the last segment. -/
structure Lawful (g : Target) : Prop where
  lead : g.path.head? = some '/'
  segment : ∃ a b, g.path = a ++ '/' :: b ∧ '/' ∉ b ∧ ';' ∉ b
  path : '?' ∉ g.path ∧ '#' ∉ g.path
  params : ∀ p, g.params = some p → '/' ∉ p ∧ '?' ∉ p ∧ '#' ∉ p
  query : ∀ q, g.query = some q → '#' ∉ q

variable {g g' : Target}

theorem Lawful.question (h : g.Lawful) : '?' ∉ g.path ++ opened ';' g.params := by
  have hparams : '?' ∉ opened ';' g.params :=
    notMem_opened (by decide) fun p hp => (h.params p hp).2.1
  simp [h.path.1, hparams]

theorem Lawful.hash (h : g.Lawful) :
    '#' ∉ g.path ++ opened ';' g.params ++ opened '?' g.query := by
  have hparams : '#' ∉ opened ';' g.params :=
    notMem_opened (by decide) fun p hp => (h.params p hp).2.2
  have hquery : '#' ∉ opened '?' g.query := notMem_opened (by decide) h.query
  simp [h.path.2, hparams, hquery]

/-- The path is divided at the first `;` of its last segment. -/
theorem Lawful.splitParams (h : g.Lawful) :
    splitParams (g.path ++ opened ';' g.params) = (g.path, g.params.getD []) := by
  obtain ⟨a, b, hpath, hb, hb'⟩ := h.segment
  have hlast : '/' ∉ b ++ opened ';' g.params := by
    have hparams : '/' ∉ opened ';' g.params :=
      notMem_opened (by decide) fun p hp => (h.params p hp).1
    simp [hb, hparams]
  have htake : ((g.path ++ opened ';' g.params).reverse.takeWhile (· != '/')).reverse =
      b ++ opened ';' g.params := by
    have hreverse : (g.path ++ opened ';' g.params).reverse =
        (b ++ opened ';' g.params).reverse ++ '/' :: a.reverse := by simp [hpath]
    rw [hreverse, List.takeWhile_append_of_pos, List.takeWhile_cons]
    · simp
    · intro c hc
      have hne : c ≠ '/' := fun he => hlast (he ▸ List.mem_reverse.1 hc)
      simpa using hne
  have hfront : (g.path ++ opened ';' g.params).take
      ((g.path ++ opened ';' g.params).length - (b ++ opened ';' g.params).length) =
      a ++ ['/'] := by
    have hwhole : g.path ++ opened ';' g.params = (a ++ ['/']) ++ (b ++ opened ';' g.params) := by
      simp [hpath]
    rw [hwhole, List.length_append, Nat.add_sub_cancel, List.take_left]
  rw [Url.splitParams]
  simp only [htake, hfront, cut_opened hb']
  cases g.params <;> simp [hpath]

/-- Parts of a target are told by their text. -/
theorem Lawful.cancel (h : g.Lawful) (h' : g'.Lawful) (htext : g.text = g'.text) : g = g' := by
  obtain ⟨hrest, hfragment⟩ := opened_cancel h.hash h'.hash htext
  obtain ⟨hrest, hquery⟩ := opened_cancel h.question h'.question hrest
  have hsplit := congrArg Url.splitParams hrest
  rw [h.splitParams, h'.splitParams] at hsplit
  have hpath : g.path = g'.path := congrArg Prod.fst hsplit
  rw [hpath] at hrest
  have hparams : opened ';' g.params = opened ';' g'.params := List.append_cancel_left hrest
  have hparams' : g.params = g'.params :=
    (opened_cancel (a := []) (b := []) (by simp) (by simp) hparams).2
  cases g
  cases g'
  simp_all

/-- Every text that begins with a slash is divided. -/
theorem exists_lawful {cs : List Char} (h : cs.head? = some '/') :
    ∃ g : Target, g.Lawful ∧ g.text = cs := by
  obtain ⟨before, fragment, hcs, hhash⟩ := exists_opened '#' cs
  obtain ⟨front, query, hbefore, hquestion⟩ := exists_opened '?' before
  have hlead : front.head? = some '/' := by
    cases front with
    | nil =>
      exfalso
      cases query <;> cases fragment <;> simp [hcs, hbefore] at h
    | cons c r => simpa [hcs, hbefore] using h
  obtain ⟨a, last, hfront, hlast⟩ := exists_segment (List.mem_of_mem_head? hlead)
  obtain ⟨b, params, hsegment, hb⟩ := exists_opened ';' last
  subst hsegment hfront hbefore
  simp only [List.mem_append, List.mem_cons, not_or] at hlast hquestion hhash
  refine ⟨⟨a ++ '/' :: b, params, query, fragment⟩, ?_, by simp [text, hcs]⟩
  refine ⟨?_, ⟨a, b, rfl, hlast.1, hb⟩, ?_, ?_, ?_⟩
  · cases a with
    | nil => rfl
    | cons c r => exact hlead
  · simp [hquestion, hhash]
  · rintro p rfl
    simp only [opened_some, List.mem_cons, not_or] at hlast hquestion hhash
    exact ⟨hlast.2.2, hquestion.2.2.2.2, hhash.1.2.2.2.2⟩
  · rintro q rfl
    simp only [opened_some, List.mem_cons, not_or] at hhash
    exact hhash.2.2

end Target

end Url
end RestShell
