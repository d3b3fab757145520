import RestShell.Proofs.Address.Names

/-! Containment of paths. Whatever is entered, in whatever order, the working path and the
path an input resolves to are absolute and have single slashes. They hold no dot name
unless some walk ended on a first or last name in which blanks on the outer side hid
one: the finished path is trimmed once more, and that uncovers it. -/

namespace RestShell

namespace Chars

/-- One dot or two. -/
def IsDots (n : List Char) : Prop := n = ['.'] ∨ n = ['.', '.']

/-- Blanks at the outer end of the first or the last name hide one dot or two. -/
def HidesDots (ns : List (List Char)) : Prop :=
  (∃ n, ns = [n] ∧ IsDots (trim n)) ∨
    ∃ first inner last, ns = first :: (inner ++ [last]) ∧
      (IsDots (trimStart first) ∨ IsDots (trimEnd last))

instance (n : List Char) : Decidable (IsDots n) := inferInstanceAs (Decidable (_ ∨ _))

theorem IsDots.ne_nil {n : List Char} (h : IsDots n) : n ≠ [] := by
  rcases h with rfl | rfl <;> simp

theorem IsDots.trim {n : List Char} (h : IsDots n) : IsDots (trim n) := by
  rcases h with rfl | rfl
  · exact .inl (by decide)
  · exact .inr (by decide)

/-- No name, one, or a first and a last one. -/
theorem names_cases (ns : List (List Char)) :
    ns = [] ∨ (∃ n, ns = [n]) ∨ ∃ first inner last, ns = first :: (inner ++ [last]) := by
  cases ns with
  | nil => exact .inl rfl
  | cons n r =>
    rcases List.eq_nil_or_concat r with rfl | ⟨inner, last, rfl⟩
    · exact .inr (.inl ⟨n, rfl⟩)
    · exact .inr (.inr ⟨n, inner, last, by simp⟩)

theorem mem_names_trim {n : List Char} (hn : '/' ∉ n) (x : List Char) :
    x ∈ names (trim (join '/' [n])) ↔ x = trim n ∧ x ≠ [] := by
  have ht : '/' ∉ trim n := fun h => hn (trim_subset n h)
  simp [mem_names, join, split_of_notMem ht]

theorem mem_names_trim_join {first last : List Char} {inner : List (List Char)}
    (hs : ∀ n ∈ first :: (inner ++ [last]), '/' ∉ n) (x : List Char) :
    x ∈ names (trim (join '/' (first :: (inner ++ [last])))) ↔
      (x = trimStart first ∨ x ∈ inner ∨ x = trimEnd last) ∧ x ≠ [] := by
  have ht : ∀ n ∈ trimStart first :: (inner ++ [trimEnd last]), '/' ∉ n := by
    intro n hn
    simp only [List.mem_cons, List.mem_append, List.not_mem_nil, or_false] at hn
    rcases hn with rfl | hn | rfl
    · exact fun h => hs first (by simp) (trimStart_subset first h)
    · exact hs n (by simp [hn])
    · exact fun h => hs last (by simp) (trimEnd_subset last h)
  rw [trim_join (by decide), names_join ht]
  simp

/-- A name of the trimmed join is a name of the list, trimmed on one side or both. -/
theorem exists_trim_eq {ns : List (List Char)} (hs : ∀ n ∈ ns, '/' ∉ n) {x : List Char}
    (hx : x ∈ names (trim (join '/' ns))) : ∃ n ∈ ns, trim x = trim n := by
  rcases names_cases ns with rfl | ⟨n, rfl⟩ | ⟨first, inner, last, rfl⟩
  · simp [join, trim, trimEnd, trimStart] at hx
  · obtain ⟨rfl, -⟩ := (mem_names_trim (hs n (by simp)) x).1 hx
    exact ⟨n, by simp, trim_trim n⟩
  · obtain ⟨rfl | hx | rfl, -⟩ := (mem_names_trim_join hs x).1 hx
    · exact ⟨first, by simp, trim_trimStart first⟩
    · exact ⟨x, by simp [hx], rfl⟩
    · exact ⟨last, by simp, trim_trimEnd last⟩

/-- Of names without dots, the trimmed join has a dot name just when the outer ends hide one. -/
theorem dots_trim_join_iff {ns : List (List Char)} (hs : ∀ n ∈ ns, '/' ∉ n)
    (hd : ∀ n ∈ ns, ¬ IsDots n) :
    (∃ x ∈ names (trim (join '/' ns)), IsDots x) ↔ HidesDots ns := by
  rcases names_cases ns with rfl | ⟨n, rfl⟩ | ⟨first, inner, last, rfl⟩
  · simp [HidesDots, join, trim, trimEnd, trimStart]
  · simp only [mem_names_trim (hs n (by simp)), HidesDots]
    constructor
    · rintro ⟨x, ⟨rfl, -⟩, hx⟩
      exact .inl ⟨n, rfl, hx⟩
    · rintro (⟨m, hm, h⟩ | ⟨first, inner, last, hm, -⟩)
      · obtain rfl : n = m := by simpa using hm
        exact ⟨trim n, ⟨rfl, h.ne_nil⟩, h⟩
      · simp at hm
  · simp only [mem_names_trim_join hs, HidesDots]
    constructor
    · rintro ⟨x, ⟨rfl | hx | rfl, -⟩, h⟩
      · exact .inr ⟨first, inner, last, rfl, .inl h⟩
      · exact absurd h (hd x (by simp [hx]))
      · exact .inr ⟨first, inner, last, rfl, .inr h⟩
    · rintro (⟨m, hm, -⟩ | ⟨first', inner', last', he, h⟩)
      · simp at hm
      · obtain ⟨rfl, hr⟩ := List.cons.inj he
        obtain ⟨rfl, hl⟩ := List.append_inj' hr rfl
        obtain rfl : last = last' := by simpa using hl
        rcases h with h | h
        · exact ⟨trimStart first, ⟨.inl rfl, h.ne_nil⟩, h⟩
        · exact ⟨trimEnd last, ⟨.inr (.inr rfl), h.ne_nil⟩, h⟩

/-- A walk ends on names that were open before or that it met, and it keeps no dot name. -/
theorem mem_of_walk {segments opened closed : List (List Char)}
    (h : walk opened segments = some closed) {n : List Char} (hn : n ∈ closed) :
    n ∈ opened ∨ n ∈ segments ∧ n ≠ [] ∧ ¬ IsDots n := by
  induction segments generalizing opened with
  | nil =>
    simp only [walk, Option.some.injEq] at h
    exact .inl (h ▸ hn)
  | cons s r ih =>
    simp only [walk] at h
    split at h
    · exact (ih h).imp_right fun hr => ⟨by simp [hr.1], hr.2⟩
    · rename_i hs
      simp only [not_or] at hs
      split at h
      · cases opened with
        | nil => simp at h
        | cons o outer =>
          rcases ih h with ho | hr
          · exact .inl (by simp [ho])
          · exact .inr ⟨by simp [hr.1], hr.2⟩
      · rename_i hdd
        rcases ih h with ho | hr
        · rcases List.mem_cons.1 ho with rfl | ho
          · exact .inr ⟨by simp, hs.1, by simp [IsDots, hs.2, hdd]⟩
          · exact .inl ho
        · exact .inr ⟨by simp [hr.1], hr.2⟩

end Chars

namespace Path
open Chars

/-- A path from the root in which no two slashes stand together. -/
structure Absolute (p : String) : Prop where
  rooted : p.toList.head? = some '/'
  single : ¬ ['/', '/'] <:+: p.toList

/-- No segment of the path is a dot or two. -/
def Dotless (p : String) : Prop := ∀ n ∈ Text.split '/' p, n ≠ "." ∧ n ≠ ".."

/-- No segment of the input is a dot or two but for the blanks around it. -/
def Plain (input : String) : Prop :=
  ∀ n ∈ split '/' (trim input.toList), IsDots (trim n) → IsDots n

instance (input : String) : Decidable (Plain input) :=
  inferInstanceAs (Decidable (∀ n ∈ split '/' (trim input.toList), IsDots (trim n) → IsDots n))

theorem absolute_normalize (trail : Bool) (cs : List Char) :
    Absolute (.ofList (Chars.normalize true trail cs)) where
  rooted := by simpa using head?_normalize trail cs
  single := by simpa using (spaced_normalize true trail cs).no_double_slash

theorem dotless_iff (p : String) : Dotless p ↔ ∀ n ∈ names p.toList, ¬ IsDots n := by
  constructor
  · rintro h n hn hd
    have hm : String.ofList n ∈ Text.split '/' p := List.mem_map_of_mem (mem_names.1 hn).1
    rcases hd with rfl | rfl
    · exact (h _ hm).1 rfl
    · exact (h _ hm).2 rfl
  · rintro h n hn
    obtain ⟨cs, hcs, rfl⟩ := List.mem_map.1 hn
    constructor
    · rintro he
      obtain rfl : cs = ['.'] := by simpa using congrArg String.toList he
      exact h _ (mem_names.2 ⟨hcs, by simp⟩) (.inl rfl)
    · rintro he
      obtain rfl : cs = ['.', '.'] := by simpa using congrArg String.toList he
      exact h _ (mem_names.2 ⟨hcs, by simp⟩) (.inr rfl)

/-- No name of the path is a dot or two, with blanks around it or without. -/
def Unmasked (p : String) : Prop := ∀ n ∈ names p.toList, ¬ IsDots (trim n)

theorem Unmasked.dotless {p : String} (h : Unmasked p) : Dotless p :=
  (dotless_iff p).2 fun n hn hd => h n hn hd.trim

end Path

namespace Location
open Chars RestShell.Path

/-- The names that a walk along the input ends on, outermost first, if there is a walk
and it stays below the root. -/
def walked (l : Location) (input : String) : Option (List (List Char)) :=
  if input = "-" ∨ input = "" then none
  else
    let path := Chars.normalize false false input.toList
    (walk (if path.head? = some '/' then [] else places l.current.toList) (split '/' path)).map
      List.reverse

/-- The input leads to names in which blanks hide a dot name. -/
def Exposes (l : Location) (input : String) : Prop := ∃ ns, l.walked input = some ns ∧ HidesDots ns

/-- Moves to the path that an input names, or stays where it names none. -/
def step (l : Location) (input : String) : Location :=
  match l.enter input with
  | .ok l' => l'
  | .error _ => l

def enterAll (l : Location) (inputs : List String) : Location := inputs.foldl step l

theorem resolve_of_walked {l : Location} {input : String} {ns : List (List Char)}
    (h : l.walked input = some ns) :
    ∃ trail, l.resolve input = .ok (.ofList (Chars.normalize true trail (join '/' ns))) := by
  simp only [walked] at h
  split at h
  · simp at h
  · rename_i hi
    simp only [not_or] at hi
    obtain ⟨closed, hw, rfl⟩ := Option.map_eq_some_iff.1 h
    simp only [resolve, hi.1, hi.2, if_false, hw]
    split
    · exact ⟨true, rfl⟩
    · exact ⟨false, rfl⟩

/-- An input names the previous path, the current one, or the end of a walk. -/
theorem resolve_cases {l : Location} {input p : String} (h : l.resolve input = .ok p) :
    p = l.previous ∧ l.walked input = none ∨ p = l.current ∧ l.walked input = none ∨
      ∃ ns, l.walked input = some ns := by
  by_cases hd : input = "-"
  · rw [resolve, if_pos hd] at h
    exact .inl ⟨(Except.ok.inj h).symm, by simp [walked, hd]⟩
  · by_cases he : input = ""
    · rw [resolve, if_neg hd, if_pos he] at h
      exact .inr (.inl ⟨(Except.ok.inj h).symm, by simp [walked, he]⟩)
    · simp only [resolve, hd, he, if_false] at h
      split at h
      · simp at h
      · rename_i closed hw
        exact .inr (.inr ⟨closed.reverse, by simp [walked, hd, he, hw]⟩)

theorem mem_walked {l : Location} {input : String} {ns : List (List Char)}
    (h : l.walked input = some ns) {n : List Char} (hn : n ∈ ns) :
    n ∈ names l.current.toList ∨ n ∈ names (trim input.toList) ∧ ¬ IsDots n := by
  simp only [walked] at h
  split at h
  · simp at h
  · obtain ⟨closed, hw, rfl⟩ := Option.map_eq_some_iff.1 h
    rcases mem_of_walk hw (List.mem_reverse.1 hn) with ho | ⟨hp, hne, hd⟩
    · split at ho
      · simp at ho
      · exact .inl (by simpa [places_eq] using ho)
    · right
      rw [← names_normalize false false]
      exact ⟨mem_names.2 ⟨hp, hne⟩, hd⟩

theorem slash_notMem_walked {l : Location} {input : String} {ns : List (List Char)}
    (h : l.walked input = some ns) : ∀ n ∈ ns, '/' ∉ n := by
  intro n hn
  rcases mem_walked h hn with hc | hi
  · exact notMem_of_mem_split (mem_names.1 hc).1
  · exact notMem_of_mem_split (mem_names.1 hi.1).1

/-- The names on the path that a walk resolves to. -/
theorem names_of_walked {l : Location} {input p : String} {ns : List (List Char)}
    (h : l.walked input = some ns) (hp : l.resolve input = .ok p) :
    names p.toList = names (trim (join '/' ns)) := by
  obtain ⟨trail, hr⟩ := resolve_of_walked h
  obtain rfl := Except.ok.inj (hp.symm.trans hr)
  simp [names_normalize]

theorem step_cases (l : Location) (input : String) :
    (∃ p, l.resolve input = .ok p ∧ l.step input = ⟨p, l.current⟩) ∨
      l.walked input = none ∧ l.step input = l := by
  cases h : l.resolve input with
  | ok p => exact .inl ⟨p, rfl, by simp [step, enter, h, Except.map]⟩
  | error e =>
    refine .inr ⟨?_, by simp [step, enter, h, Except.map]⟩
    cases hw : l.walked input with
    | none => rfl
    | some ns =>
      obtain ⟨trail, hr⟩ := resolve_of_walked hw
      simp [hr] at h

theorem resolve_absolute {l : Location} (hc : Absolute l.current) (hp : Absolute l.previous)
    {input p : String} (h : l.resolve input = .ok p) : Absolute p := by
  rcases resolve_cases h with ⟨rfl, -⟩ | ⟨rfl, -⟩ | ⟨ns, hw⟩
  · exact hp
  · exact hc
  · obtain ⟨trail, hr⟩ := resolve_of_walked hw
    obtain rfl := Except.ok.inj (h.symm.trans hr)
    exact absolute_normalize trail _

theorem enterAll_concat (l : Location) (inputs : List String) (i : String) :
    l.enterAll (inputs ++ [i]) = (l.enterAll inputs).step i := by
  simp [enterAll]

/-- A property of paths that resolving keeps holds of the location after every run. -/
theorem enterAll_invariant (Good : String → Prop) (hroot : Good "/") (inputs : List String)
    (hstep : ∀ l : Location, Good l.current → Good l.previous → ∀ i ∈ inputs, ∀ p,
      l.resolve i = .ok p → Good p) :
    Good (root.enterAll inputs).current ∧ Good (root.enterAll inputs).previous := by
  induction inputs using List.reverseRecOn with
  | nil => exact ⟨hroot, hroot⟩
  | append_singleton inputs i ih =>
    have hl := ih fun l hc hp j hj => hstep l hc hp j (by simp [hj])
    rw [enterAll_concat]
    rcases step_cases (root.enterAll inputs) i with ⟨p, hr, hs⟩ | ⟨-, hs⟩
    · rw [hs]
      exact ⟨hstep _ hl.1 hl.2 i (by simp) p hr, hl.1⟩
    · rw [hs]
      exact hl

theorem dotless_resolve_iff {l : Location} (hc : Dotless l.current) (hp : Dotless l.previous)
    {input p : String} (h : l.resolve input = .ok p) : Dotless p ↔ ¬ l.Exposes input := by
  rcases resolve_cases h with ⟨rfl, hw⟩ | ⟨rfl, hw⟩ | ⟨ns, hw⟩
  · simp [Exposes, hw, hp]
  · simp [Exposes, hw, hc]
  · have hd : ∀ n ∈ ns, ¬ IsDots n := by
      intro n hn
      rcases mem_walked hw hn with hn | hn
      · exact (dotless_iff _).1 hc n hn
      · exact hn.2
    have hx : l.Exposes input ↔ HidesDots ns := by simp [Exposes, hw]
    rw [dotless_iff, names_of_walked hw h, hx, ← dots_trim_join_iff (slash_notMem_walked hw) hd]
    simp

theorem dotless_step_iff {l : Location} (hc : Dotless l.current) (hp : Dotless l.previous)
    (input : String) : Dotless (l.step input).current ↔ ¬ l.Exposes input := by
  rcases step_cases l input with ⟨p, hr, hs⟩ | ⟨hw, hs⟩
  · rw [hs]
    exact dotless_resolve_iff hc hp hr
  · rw [hs]
    simp [Exposes, hw, hc]

/-- The previous path of a run is the root or was the working path before. -/
theorem enterAll_previous (inputs : List String) : (root.enterAll inputs).previous = "/" ∨
    ∃ done, done <+: inputs ∧ (root.enterAll inputs).previous = (root.enterAll done).current := by
  induction inputs using List.reverseRecOn with
  | nil => exact .inl rfl
  | append_singleton inputs i ih =>
    rw [enterAll_concat]
    rcases step_cases (root.enterAll inputs) i with ⟨p, -, hs⟩ | ⟨-, hs⟩
    · exact .inr ⟨inputs, List.prefix_append inputs [i], by rw [hs]⟩
    · rw [hs]
      exact ih.imp_right fun ⟨done, hd, he⟩ => ⟨done, hd.trans (List.prefix_append inputs [i]), he⟩

theorem dotless_root : Dotless "/" := by
  rw [dotless_iff]
  simp [names, split]

/-- The working path is dotless all through a run just when no input of it uncovers a dot
name. -/
theorem enterAll_dotless_iff (inputs : List String) :
    (∀ done, done <+: inputs → Dotless (root.enterAll done).current) ↔
      ∀ done i, done ++ [i] <+: inputs → ¬ (root.enterAll done).Exposes i := by
  induction inputs using List.reverseRecOn with
  | nil => simp [List.prefix_nil, enterAll, root, dotless_root]
  | append_singleton inputs i ih =>
    have hl : (∀ done, done <+: inputs ++ [i] → Dotless (root.enterAll done).current) ↔
        (∀ done, done <+: inputs → Dotless (root.enterAll done).current) ∧
          Dotless ((root.enterAll inputs).step i).current := by
      rw [← enterAll_concat]
      constructor
      · exact fun h => ⟨fun done hd => h done (hd.trans (List.prefix_append inputs [i])),
          h _ List.prefix_rfl⟩
      · rintro ⟨h, hi⟩ done hd
        rcases List.prefix_concat_iff.1 hd with rfl | hd
        · exact hi
        · exact h done hd
    have hr : (∀ done j, done ++ [j] <+: inputs ++ [i] → ¬ (root.enterAll done).Exposes j) ↔
        (∀ done j, done ++ [j] <+: inputs → ¬ (root.enterAll done).Exposes j) ∧
          ¬ (root.enterAll inputs).Exposes i := by
      constructor
      · exact fun h => ⟨fun done j hd => h done j (hd.trans (List.prefix_append inputs [i])),
          h _ _ List.prefix_rfl⟩
      · rintro ⟨h, hi⟩ done j hd
        rcases List.prefix_concat_iff.1 hd with he | hd
        · obtain ⟨rfl, hj⟩ := List.append_inj' he rfl
          obtain rfl : j = i := by simpa using hj
          exact hi
        · exact h done j hd
    rw [hl, hr, ← ih]
    refine and_congr_right fun h => dotless_step_iff (h inputs List.prefix_rfl) ?_ i
    rcases enterAll_previous inputs with hp | ⟨done, hd, hp⟩
    · rw [hp]
      exact dotless_root
    · rw [hp]
      exact h done hd

theorem resolve_unmasked {l : Location} (hc : Unmasked l.current) (hp : Unmasked l.previous)
    {input p : String} (hi : Plain input) (h : l.resolve input = .ok p) : Unmasked p := by
  rcases resolve_cases h with ⟨rfl, -⟩ | ⟨rfl, -⟩ | ⟨ns, hw⟩
  · exact hp
  · exact hc
  · intro x hx hd
    rw [names_of_walked hw h] at hx
    obtain ⟨n, hn, he⟩ := exists_trim_eq (slash_notMem_walked hw) hx
    rw [he] at hd
    rcases mem_walked hw hn with hn | ⟨hn, hnd⟩
    · exact hc n hn hd
    · exact hnd (hi n (mem_names.1 hn).1 hd)

theorem absolute_root : Absolute "/" := ⟨by decide, by decide⟩

/-- After every run the paths in play are absolute. None ever holds a dot name just when
no input of the run uncovers one, and plain inputs uncover none. -/
theorem resolve_contained_iff (inputs : List String) (input p : String)
    (h : (root.enterAll inputs).resolve input = .ok p) :
    let l := root.enterAll inputs
    (Absolute p ∧ Absolute l.current ∧ Absolute l.previous) ∧
    ((Dotless p ∧ ∀ done, done <+: inputs → Dotless (root.enterAll done).current) ↔
      ∀ done i, done ++ [i] <+: inputs ++ [input] → ¬ (root.enterAll done).Exposes i) ∧
    ((∀ i ∈ inputs ++ [input], Plain i) → Dotless p ∧ Dotless l.current ∧ Dotless l.previous) := by
  intro l
  have hs : root.enterAll (inputs ++ [input]) = ⟨p, l.current⟩ := by
    rw [enterAll_concat]
    simp [step, enter, h, Except.map, l]
  refine ⟨?_, ?_, fun hp => ?_⟩
  · obtain ⟨hc, hp⟩ := enterAll_invariant Absolute absolute_root inputs
      fun l hc hp i _ p h => resolve_absolute hc hp h
    exact ⟨resolve_absolute hc hp h, hc, hp⟩
  · rw [← enterAll_dotless_iff]
    constructor
    · rintro ⟨hd, hr⟩ done hp
      rcases List.prefix_concat_iff.1 hp with rfl | hp
      · rw [hs]
        exact hd
      · exact hr done hp
    · intro hr
      have hd := hr _ List.prefix_rfl
      rw [hs] at hd
      exact ⟨hd, fun done hp => hr done (hp.trans (List.prefix_append inputs [input]))⟩
  · obtain ⟨hc, hq⟩ := enterAll_invariant Unmasked (by simp [Unmasked, names, split]) inputs
      fun l hc hq i hi p h => resolve_unmasked hc hq (hp i (by simp [hi])) h
    exact ⟨(resolve_unmasked hc hq (hp input (by simp)) h).dotless, hc.dotless, hq.dotless⟩

/-- A run with a failure on the way, one that ends on a slash and one that goes back. -/
theorem resolve_contained_docs :
    (root.enterAll ["/api/docs//", "../../..", "./v1/"]).resolve "../guide" = .ok "/api/docs/guide" ∧
    Absolute "/api/docs/guide" ∧ Dotless "/api/docs/guide" := by
  have h : (root.enterAll ["/api/docs//", "../../..", "./v1/"]).resolve "../guide" =
      .ok "/api/docs/guide" := by rfl
  have hc := resolve_contained_iff _ _ _ h
  exact ⟨h, hc.1.1, (hc.2.2 (by decide)).1⟩

/-- A blank before the dots lets them pass the walk and is trimmed off afterwards. -/
theorem resolve_uncovers_dots : root.resolve "/ .." = .ok "/.." ∧ ¬ Dotless "/.." := by
  refine ⟨by rfl, fun h => ?_⟩
  exact (h ".." (by decide)).2 rfl

end Location
end RestShell
