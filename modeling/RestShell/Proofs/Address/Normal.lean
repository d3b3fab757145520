import RestShell.Proofs.Address.Splice

/-! Normal paths. A path without repeated slashes is its names and the slashes at its two ends; so
normalising, which leaves the names of the trimmed text, gives one form to all texts that agree in
these, and a text in this form is left as it is. -/

namespace RestShell
namespace Chars

variable {lead trail : Bool} {cs ds : List Char}

section Ends

theorem head?_withTrail_iff :
    (withTrail cs).head? = some '/' ↔ cs.head? = some '/' ∨ cs = [] := by
  cases cs with
  | nil => simp [withTrail]
  | cons c r =>
    unfold withTrail
    split <;> simp

theorem getLast?_withTrail (cs : List Char) : (withTrail cs).getLast? = some '/' := by
  unfold withTrail
  split
  · assumption
  · exact List.getLast?_concat

theorem getLast?_withLead_iff :
    (withLead cs).getLast? = some '/' ↔ cs.getLast? = some '/' ∨ cs = [] := by
  cases cs with
  | nil => simp [withLead]
  | cons c r =>
    unfold withLead
    split <;> simp [List.getLast?_cons]

theorem head?_normalize_iff (lead trail : Bool) (cs : List Char) :
    (normalize lead trail cs).head? = some '/' ↔
      (trim cs).head? = some '/' ∨ lead = true ∨ trim cs = [] ∧ trail = true := by
  cases lead with
  | true => simp [head?_normalize]
  | false =>
    cases trail <;> simp [normalize, head?_withTrail_iff, head?_squeeze, squeeze_eq_nil_iff]

theorem getLast?_normalize_iff (lead trail : Bool) (cs : List Char) :
    (normalize lead trail cs).getLast? = some '/' ↔
      (trim cs).getLast? = some '/' ∨ trail = true ∨ trim cs = [] ∧ lead = true := by
  cases trail with
  | true => simp [normalize, getLast?_withTrail]
  | false =>
    cases lead <;> simp [normalize, getLast?_withLead_iff, getLast?_squeeze, squeeze_eq_nil_iff]

end Ends

section NormalForm

/-- A path in the form that normalising gives. -/
structure Normal (lead trail : Bool) (cs : List Char) : Prop where
  spaced : Spaced cs
  trimmed : trim cs = cs
  opened : lead = true → cs.head? = some '/'
  closed : trail = true → cs.getLast? = some '/'

/-- A normal path is left as it is. -/
theorem Normal.normalize_eq (h : Normal lead trail cs) : normalize lead trail cs = cs := by
  have hled : (if lead then withLead cs else cs) = cs := by
    split
    · rename_i hlead
      rw [withLead, if_pos (h.opened hlead)]
    · rfl
  rw [normalize, h.trimmed, h.spaced.squeeze_eq, hled]
  split
  · rename_i htrail
    rw [withTrail, if_pos (h.closed htrail)]
  · rfl

theorem trim_withLead (h : trim cs = cs) : trim (withLead cs) = withLead cs := by
  have hend : trimEnd cs = cs := by rw [← h, trim, trimEnd_trimEnd]
  unfold withLead
  split
  · exact h
  · exact (trim_splice (a := []) (by simp) isBlank_slash cs).trans (congrArg ('/' :: ·) hend)

theorem trim_withTrail (h : trim cs = cs) : trim (withTrail cs) = withTrail cs := by
  have hstart : trimStart cs = cs := by rw [← h, trim, trimEnd_trimStart, trimStart_trimStart]
  unfold withTrail
  split
  · exact h
  · rw [trim, trimStart_append isBlank_slash, trimEnd_append isBlank_slash, hstart]
    rfl

theorem trim_normalize (lead trail : Bool) (cs : List Char) :
    trim (normalize lead trail cs) = normalize lead trail cs := by
  have hbase : trim (squeeze (trim cs)) = squeeze (trim cs) := by rw [trim_squeeze, trim_trim]
  cases lead <;> cases trail
  · exact hbase
  · exact trim_withTrail hbase
  · exact trim_withLead hbase
  · exact trim_withTrail (trim_withLead hbase)

theorem normal_normalize (lead trail : Bool) (cs : List Char) :
    Normal lead trail (normalize lead trail cs) where
  spaced := spaced_normalize lead trail cs
  trimmed := trim_normalize lead trail cs
  opened h := (head?_normalize_iff lead trail cs).2 (.inr (.inl h))
  closed h := (getLast?_normalize_iff lead trail cs).2 (.inr (.inl h))

/-- Normalising a second time changes nothing. -/
theorem normalize_normalize (lead trail : Bool) (cs : List Char) :
    normalize lead trail (normalize lead trail cs) = normalize lead trail cs :=
  (normal_normalize lead trail cs).normalize_eq

end NormalForm

section Parts

/-- The names of a squeezed text behind its first segment give it back, but for a slash that
closes it. -/
theorem Spaced.join_filter {b : List Char} {rest : List (List Char)}
    (hs : ∀ n ∈ b :: rest, '/' ∉ n) (h : Spaced (join '/' (b :: rest))) :
    let y := join '/' (b :: rest.filter fun n => !n.isEmpty)
    y.getLast? ≠ some '/' ∧
      (join '/' (b :: rest) = y ∧ rest.getLast? ≠ some [] ∨
        join '/' (b :: rest) = y ++ ['/'] ∧ rest.getLast? = some []) := by
  induction rest generalizing b with
  | nil =>
    have hb : b.getLast? ≠ some '/' := fun he => hs b (by simp) (List.mem_of_getLast? he)
    simpa [join] using hb
  | cons n r ih =>
    obtain ⟨hb, hr⟩ := List.forall_mem_cons.1 hs
    have hb : b.getLast? ≠ some '/' := fun he => hb (List.mem_of_getLast? he)
    have hchain : Spaced (b ++ '/' :: join '/' (n :: r)) := h
    obtain ⟨hhead, htail⟩ := List.isChain_cons.1 hchain.right_of_append
    by_cases hn : n = []
    · have hnil : r = [] := by
        by_contra hne
        rw [hn, join_cons '/' [] hne] at hhead
        exact hhead '/' rfl ⟨rfl, rfl⟩
      simpa [hn, hnil, join] using hb
    · -- the next segment is a name, and the rest of the text is one like this
      obtain ⟨hlast, hcases⟩ := ih hr htail
      have hy : join '/' (b :: (n :: r).filter fun n => !n.isEmpty) =
          b ++ '/' :: join '/' (n :: r.filter fun n => !n.isEmpty) := by
        simp [hn, join]
      have hne : join '/' (n :: r.filter fun n => !n.isEmpty) ≠ [] := by
        cases r.filter fun n => !n.isEmpty <;> simp [join, hn]
      have hr' : (n :: r).getLast? = some [] ↔ r.getLast? = some [] := by
        by_cases hrn : r = []
        · simp [hrn, hn]
        · rw [List.getLast?_cons_of_ne_nil hrn]
      rw [hy]
      refine ⟨?_, ?_⟩
      · rwa [List.getLast?_append_of_ne_nil _ (by simp), List.getLast?_cons_of_ne_nil hne]
      · rw [Ne, hr', show join '/' (b :: n :: r) = b ++ '/' :: join '/' (n :: r) from rfl]
        refine hcases.imp (fun hc => ⟨?_, hc.2⟩) (fun hc => ⟨?_, hc.2⟩)
        · rw [hc.1]
        · rw [hc.1]
          simp

/-- Names with slashes between them, and with one at either end or none. -/
def laid (opened closed : Bool) (ns : List (List Char)) : List Char :=
  (if opened then ['/'] else []) ++ join '/' ns ++ if closed ∧ ns ≠ [] then ['/'] else []

theorem names_of_split {b : List Char} {rest : List (List Char)} (hs : split '/' cs = b :: rest) :
    names cs = if b = [] then rest.filter fun n => !n.isEmpty
      else b :: rest.filter fun n => !n.isEmpty := by
  rw [names, hs, List.filter_cons]
  cases b <;> rfl

/-- A text with a name on it opens with a slash just when its first segment is empty. -/
theorem join_opened {b : List Char} {rest : List (List Char)} (hs : split '/' cs = b :: rest)
    (hne : names cs ≠ []) :
    join '/' (b :: rest.filter fun n => !n.isEmpty) =
      (if cs.head? == some '/' then ['/'] else []) ++ join '/' (names cs) := by
  have hjoin : join '/' (b :: rest) = cs := by rw [← hs, join_split]
  have hnames := names_of_split hs
  by_cases hb : b = []
  · rw [if_pos hb] at hnames
    have hrest : rest ≠ [] := by
      rintro rfl
      exact hne hnames
    have hhead : cs.head? = some '/' := by
      rw [← hjoin, hb, join_cons '/' [] hrest]
      rfl
    rw [hhead, hb, join_cons '/' [] (hnames ▸ hne), hnames]
    rfl
  · rw [if_neg hb] at hnames
    have hbegins : cs.head? = b.head? := by
      rw [← hjoin]
      cases rest with
      | nil => rfl
      | cons n rest => exact List.head?_append_of_ne_nil b hb
    have hslash : '/' ∉ b := notMem_of_mem_split (hs ▸ List.mem_cons_self)
    have hhead : cs.head? ≠ some '/' := by
      rw [hbegins]
      exact fun he => hslash (List.mem_of_head? he)
    simp [hhead, hnames]

/-- A path without repeated slashes is its names and the slashes at its ends. -/
theorem Spaced.eq_laid (h : Spaced cs) :
    cs = laid (cs.head? == some '/') (cs.getLast? == some '/') (names cs) := by
  obtain ⟨b, rest, hs⟩ := split_eq_cons '/' cs
  have hsegments : ∀ n ∈ b :: rest, '/' ∉ n := fun n hn => notMem_of_mem_split (hs ▸ hn)
  have hjoin : join '/' (b :: rest) = cs := by rw [← hs, join_split]
  obtain ⟨hlast, hcases⟩ := Spaced.join_filter hsegments (hjoin ▸ h)
  rw [hjoin] at hcases
  by_cases hne : names cs = []
  · -- no name at all: the text is empty or a slash
    have hempty : join '/' (b :: rest.filter fun n => !n.isEmpty) = [] := by
      have hnames := names_of_split hs
      rw [hne] at hnames
      split at hnames
      · rename_i hb
        rw [hb, ← hnames, join]
      · cases hnames
    rw [hempty] at hcases
    rcases hcases with ⟨rfl, -⟩ | ⟨rfl, -⟩ <;> rfl
  rw [join_opened hs hne] at hlast hcases
  rcases hcases with ⟨heq, -⟩ | ⟨heq, -⟩
  · have hclosed : (cs.getLast? == some '/') = false := by
      rw [heq]
      simpa using hlast
    calc cs = _ := heq
      _ = _ := by simp [laid, hclosed]
  · have hclosed : (cs.getLast? == some '/') = true := by
      rw [heq, List.getLast?_concat]
      rfl
    calc cs = _ := heq
      _ = _ := by simp [laid, hclosed, hne]

/-- Texts with the same names and the same slashes at their ends are squeezed to the same path. -/
theorem squeeze_congr (hnames : names cs = names ds)
    (hhead : cs.head? = some '/' ↔ ds.head? = some '/')
    (hlast : cs.getLast? = some '/' ↔ ds.getLast? = some '/') : squeeze cs = squeeze ds := by
  have hhead' : (cs.head? == some '/') = (ds.head? == some '/') := by
    rwa [Bool.eq_iff_iff, beq_iff_eq, beq_iff_eq]
  have hlast' : (cs.getLast? == some '/') = (ds.getLast? == some '/') := by
    rwa [Bool.eq_iff_iff, beq_iff_eq, beq_iff_eq]
  rw [(spaced_squeeze cs).eq_laid, (spaced_squeeze ds).eq_laid, names_squeeze, names_squeeze,
    head?_squeeze, head?_squeeze, getLast?_squeeze, getLast?_squeeze, hnames, hhead', hlast']

end Parts

end Chars

namespace Path
open Chars Text

theorem toList_normalize (lead trail : Bool) (s : String) :
    (normalize lead trail s).toList = Chars.normalize lead trail s.toList := by
  rw [normalize, String.toList_ofList]

theorem startsWith_iff {c : Char} {s : String} :
    startsWith c s = true ↔ s.toList.head? = some c := by
  rw [startsWith, beq_iff_eq]

theorem endsWith_iff {c : Char} {s : String} :
    endsWith c s = true ↔ s.toList.getLast? = some c := by
  rw [endsWith, beq_iff_eq]

/-- A normalised path has no two slashes together, the names of the trimmed text, and at either end
a slash where the text has one or one is forced, the only slash of an empty text being at both. It
is left as it is by normalising again, and it is the same for all texts that have, when trimmed, the
same names and the same slashes at their ends. -/
theorem normalize_canonical (lead trail : Bool) (s : String) :
    ¬ ['/', '/'] <:+: (normalize lead trail s).toList ∧
    names (normalize lead trail s).toList = names (trim s).toList ∧
    (startsWith '/' (normalize lead trail s) = true ↔
      startsWith '/' (trim s) = true ∨ lead = true ∨ trim s = "" ∧ trail = true) ∧
    (endsWith '/' (normalize lead trail s) = true ↔
      endsWith '/' (trim s) = true ∨ trail = true ∨ trim s = "" ∧ lead = true) ∧
    normalize lead trail (normalize lead trail s) = normalize lead trail s ∧
    ∀ t, names (trim t).toList = names (trim s).toList →
      startsWith '/' (trim t) = startsWith '/' (trim s) →
      endsWith '/' (trim t) = endsWith '/' (trim s) →
      normalize lead trail t = normalize lead trail s := by
  have hempty : trim s = "" ↔ Chars.trim s.toList = [] := by
    rw [← String.toList_eq_nil_iff, toList_trim]
  simp only [startsWith_iff, endsWith_iff, toList_normalize, toList_trim, hempty]
  refine ⟨(spaced_normalize lead trail _).no_double_slash, names_normalize lead trail _,
    head?_normalize_iff lead trail _, getLast?_normalize_iff lead trail _, ?_, ?_⟩
  · rw [← String.toList_inj, toList_normalize, toList_normalize, normalize_normalize]
  · intro t hnames hhead hlast
    rw [Bool.eq_iff_iff, startsWith_iff, startsWith_iff, toList_trim, toList_trim] at hhead
    rw [Bool.eq_iff_iff, endsWith_iff, endsWith_iff, toList_trim, toList_trim] at hlast
    have hsqueeze : squeeze (Chars.trim t.toList) = squeeze (Chars.trim s.toList) :=
      squeeze_congr hnames hhead hlast
    rw [← String.toList_inj, toList_normalize, toList_normalize, Chars.normalize, Chars.normalize,
      hsqueeze]

/-- Blanks stay where a slash keeps them from the ends. -/
theorem normalize_canonical_blanks :
    (names (trim " api/ v1 // ").toList = names (trim "api// v1 /\t").toList ∧
      startsWith '/' (trim " api/ v1 // ") = startsWith '/' (trim "api// v1 /\t") ∧
      endsWith '/' (trim " api/ v1 // ") = endsWith '/' (trim "api// v1 /\t")) ∧
    normalize true false " api/ v1 // " = normalize true false "api// v1 /\t" ∧
    normalize true false "api// v1 /\t" = "/api/ v1 /" := by
  have hparts : names (trim " api/ v1 // ").toList = names (trim "api// v1 /\t").toList ∧
      startsWith '/' (trim " api/ v1 // ") = startsWith '/' (trim "api// v1 /\t") ∧
      endsWith '/' (trim " api/ v1 // ") = endsWith '/' (trim "api// v1 /\t") := by
    decide +kernel
  obtain ⟨-, -, -, -, -, hsame⟩ := normalize_canonical true false "api// v1 /\t"
  exact ⟨hparts, hsame _ hparts.1 hparts.2.1 hparts.2.2, by decide +kernel⟩

end Path
end RestShell
