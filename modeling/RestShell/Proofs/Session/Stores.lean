import RestShell.Proofs.Assoc
import RestShell.Proofs.Session.Atomicity
import RestShell.Proofs.Text.Pieces

/-! The two stores of a session under its commands and captures. An entry is changed by an
operand that names it or by a capture of its name. That listing a store changes nothing
rests on the names in it: one with a `=` could be taken for an operand that adds or
removes. -/

namespace RestShell

open Json

namespace Outcome
variable {step : Session → String → Except ShellError (Session × List Notice)}

/-- What differs after steps for some operands was changed by the step for one of them. -/
theorem each_changed {α : Type} {f : Session → α} {s : Session} {operands : List String}
    (h : f (each step s operands).session ≠ f s) :
    ∃ operand ∈ operands, ∃ t t' notices, step t operand = .ok (t', notices) ∧ f t' ≠ f t := by
  induction operands generalizing s with
  | nil => exact absurd rfl h
  | cons operand rest ih =>
    cases hs : step s operand with
    | error e =>
      rw [each_cons_of_error hs] at h
      exact absurd rfl h
    | ok r =>
      obtain ⟨s', notices⟩ := r
      by_cases hf : f s' = f s
      · rw [each_cons_of_ok hs, preceded_session, ← hf] at h
        obtain ⟨other, hmem, hchange⟩ := ih h
        exact ⟨other, List.mem_cons_of_mem operand hmem, hchange⟩
      · exact ⟨operand, List.mem_cons_self, s, s', notices, hs, hf⟩

/-- Steps that only look at the session leave it. -/
theorem each_looks {s : Session} {operands : List String}
    (h : ∀ operand ∈ operands, ∃ notices, step s operand = .ok (s, notices)) :
    (each step s operands).session = s ∧ (each step s operands).result = .ok .next := by
  induction operands with
  | nil => exact ⟨rfl, rfl⟩
  | cons operand rest ih =>
    obtain ⟨notices, hs⟩ := h operand List.mem_cons_self
    rw [each_cons_of_ok hs]
    exact ih fun other ho => h other (List.mem_cons_of_mem operand ho)

end Outcome

namespace Session
variable {s s' : Session} {k : String}

section Operands

theorem envEntry_cases {operand : String} {notices : List Notice}
    (h : s.envEntry operand = .ok (s', notices)) :
    s' = s ∨
    (∃ name, operand = "-=" ++ name ∧ s' = { s with vars := s.vars.erase name }) ∨
    (∃ name v, operand = "+=" ++ name ∧ s.data.get? name = some v ∧
      s' = { s with vars := s.vars.put name v }) := by
  unfold envEntry at h
  split at h
  · rename_i name hname
    split at h
    · cases h
      exact .inr (.inl ⟨name, Text.dropLead?_eq_some_iff.1 hname, rfl⟩)
    · cases h
      exact .inl rfl
  · rename_i name _ hname
    split at h
    · rename_i v hv
      cases h
      exact .inr (.inr ⟨name, v, Text.dropLead?_eq_some_iff.1 hname, hv, rfl⟩)
    · cases h
  · cases h
    exact .inl rfl

theorem dataEntry_cases {operand : String} {notices : List Notice}
    (h : s.dataEntry operand = .ok (s', notices)) :
    s' = s ∨ ∃ name, operand = "-=" ++ name ∧ s' = { s with data := s.data.erase name } := by
  unfold dataEntry at h
  split at h
  · rename_i name hname
    split at h
    · cases h
      exact .inr ⟨name, Text.dropLead?_eq_some_iff.1 hname, rfl⟩
    · cases h
      exact .inl rfl
  · cases h
    exact .inl rfl

theorem env_data (s : Session) (operands : List String) :
    (s.env operands).session.data = s.data := by
  obtain ⟨vars, he⟩ := env_rebound s operands
  rw [he]

/-- Looking at captured values and removing them leaves all else. -/
theorem captured_stored (s : Session) (operands : List String) :
    ∃ data, (s.captured operands).session = { s with data } := by
  rw [captured, Outcome.preceded_session]
  refine Outcome.each_invariant (P := fun t => ∃ data, t = { s with data }) ?_ ⟨s.data, rfl⟩ _
  rintro t operand t' notices ⟨data, rfl⟩ h
  rcases dataEntry_cases h with rfl | ⟨name, -, rfl⟩
  · exact ⟨data, rfl⟩
  · exact ⟨_, rfl⟩

theorem captured_vars (s : Session) (operands : List String) :
    (s.captured operands).session.vars = s.vars := by
  obtain ⟨data, he⟩ := captured_stored s operands
  rw [he]

/-- The operands of a command, or else the names that it lists. -/
def listed (operands names : List String) : List String := if operands = [] then names else operands

theorem env_changed {operands : List String}
    (h : (s.env operands).session.vars.get? k ≠ s.vars.get? k) :
    "-=" ++ k ∈ listed operands s.vars.keys ∨ "+=" ++ k ∈ listed operands s.vars.keys := by
  obtain ⟨operand, hmem, t, t', notices, ht, hchange⟩ :=
    Outcome.each_changed (f := fun s => s.vars.get? k) h
  rcases envEntry_cases ht with rfl | ⟨name, ho, rfl⟩ | ⟨name, v, ho, -, rfl⟩
  · exact absurd rfl hchange
  · obtain rfl : name = k := Assoc.eq_of_get?_erase_ne hchange
    exact .inl (ho ▸ hmem)
  · obtain rfl : name = k := Assoc.eq_of_get?_put_ne hchange
    exact .inr (ho ▸ hmem)

theorem captured_changed {operands : List String}
    (h : (s.captured operands).session.data.get? k ≠ s.data.get? k) :
    "-=" ++ k ∈ listed operands s.data.keys := by
  obtain ⟨operand, hmem, t, t', notices, ht, hchange⟩ :=
    Outcome.each_changed (f := fun s => s.data.get? k) h
  rcases dataEntry_cases ht with rfl | ⟨name, ho, rfl⟩
  · exact absurd rfl hchange
  · obtain rfl : name = k := Assoc.eq_of_get?_erase_ne hchange
    exact ho ▸ hmem

end Operands

section Names

/-- No stored name has a `=` in it. -/
structure Unmarked (s : Session) : Prop where
  vars : ∀ k ∈ s.vars.keys, '=' ∉ k.toList
  data : ∀ k ∈ s.data.keys, '=' ∉ k.toList

theorem dropLead?_eq_none {lead operand : String} (hl : '=' ∈ lead.toList)
    (ho : '=' ∉ operand.toList) : Text.dropLead? lead operand = none := by
  cases h : Text.dropLead? lead operand with
  | none => rfl
  | some name =>
    rw [Text.dropLead?_eq_some_iff.1 h] at ho
    simp [hl] at ho

/-- An operand without `=` is looked up only. -/
theorem envEntry_looks {operand : String} (h : '=' ∉ operand.toList) :
    ∃ notices, s.envEntry operand = .ok (s, notices) := by
  unfold envEntry
  rw [dropLead?_eq_none (by decide) h, dropLead?_eq_none (by decide) h]
  exact ⟨_, rfl⟩

theorem dataEntry_looks {operand : String} (h : '=' ∉ operand.toList) :
    ∃ notices, s.dataEntry operand = .ok (s, notices) := by
  unfold dataEntry
  rw [dropLead?_eq_none (by decide) h]
  exact ⟨_, rfl⟩

theorem env_nil (h : s.Unmarked) :
    (s.env []).session = s ∧ (s.env []).result = .ok .next :=
  Outcome.each_looks fun operand ho => envEntry_looks (h.vars operand ho)

theorem captured_nil (h : s.Unmarked) :
    (s.captured []).session = s ∧ (s.captured []).result = .ok .next :=
  Outcome.each_looks fun operand ho => dataEntry_looks (h.data operand ho)

theorem notMem_keys_put {m : Assoc Value} (hm : ∀ k ∈ m.keys, '=' ∉ k.toList) {name : String}
    (hn : '=' ∉ name.toList) (v : Value) : ∀ k ∈ (m.put name v).keys, '=' ∉ k.toList := by
  intro k hk
  rw [Assoc.keys_put] at hk
  split at hk
  · exact hm k hk
  · rcases List.mem_append.1 hk with hk | hk
    · exact hm k hk
    · rwa [List.mem_singleton.1 hk]

theorem notMem_keys_erase {m : Assoc Value} (hm : ∀ k ∈ m.keys, '=' ∉ k.toList) (name : String) :
    ∀ k ∈ (m.erase name).keys, '=' ∉ k.toList := by
  intro k hk
  rw [Assoc.keys_erase] at hk
  exact hm k (List.mem_of_mem_erase hk)

/-- A variable is added under a name that a captured value has. -/
theorem Unmarked.env (h : s.Unmarked) (operands : List String) :
    (s.env operands).session.Unmarked := by
  refine Outcome.each_invariant (P := Unmarked) ?_ h _
  intro t operand t' notices ht hstep
  rcases envEntry_cases hstep with rfl | ⟨name, -, rfl⟩ | ⟨name, v, -, hv, rfl⟩
  · exact ht
  · exact ⟨notMem_keys_erase ht.vars name, ht.data⟩
  · have hname : name ∈ t.data.keys := (Assoc.get?_isSome_iff name t.data).1 (by rw [hv]; rfl)
    exact ⟨notMem_keys_put ht.vars (ht.data name hname) v, ht.data⟩

theorem Unmarked.captured (h : s.Unmarked) (operands : List String) :
    (s.captured operands).session.Unmarked := by
  refine Outcome.each_invariant (P := Unmarked) ?_ h _
  intro t operand t' notices ht hstep
  rcases dataEntry_cases hstep with rfl | ⟨name, -, rfl⟩
  · exact ht
  · exact ⟨ht.vars, notMem_keys_erase ht.data name⟩

end Names

section Captures

/-- What the values of a capture do to the stores. -/
theorem keep_cases (s : Session) (key : String) (values : List Value) :
    s.keep key values = s ∨
    (∃ v name, key = name ++ "+" ∧
      s.keep key values = { s with vars := s.vars.put name v, data := s.data.put name v }) ∨
    ∃ v, s.keep key values = { s with data := s.data.put key v } := by
  unfold keep
  split
  · exact .inl rfl
  · rename_i v name _ hname
    exact .inr (.inl ⟨v, name, Text.dropLast?_eq_some hname, rfl⟩)
  · rename_i v _ _
    exact .inr (.inr ⟨v, rfl⟩)

/-- The session with the values of several captures. -/
def keepAll (s : Session) (kept : List (String × List Value)) : Session :=
  kept.foldl (fun s c => s.keep c.1 c.2) s

theorem keepAll_changed {α : Type} {f : Session → α} {kept : List (String × List Value)}
    (h : f (s.keepAll kept) ≠ f s) : ∃ c ∈ kept, ∃ t : Session, f (t.keep c.1 c.2) ≠ f t := by
  induction kept generalizing s with
  | nil => exact absurd rfl h
  | cons c rest ih =>
    by_cases hf : f (s.keep c.1 c.2) = f s
    · have hrest : f ((s.keep c.1 c.2).keepAll rest) ≠ f (s.keep c.1 c.2) := by
        rw [hf]
        exact h
      obtain ⟨d, hd, hchange⟩ := ih hrest
      exact ⟨d, List.mem_cons_of_mem c hd, hchange⟩
    · exact ⟨c, List.mem_cons_self, s, hf⟩

theorem keepAll_vars_changed {kept : List (String × List Value)}
    (h : (s.keepAll kept).vars.get? k ≠ s.vars.get? k) : ∃ c ∈ kept, c.1 = k ++ "+" := by
  obtain ⟨c, hc, t, hchange⟩ := keepAll_changed (f := fun s => s.vars.get? k) h
  refine ⟨c, hc, ?_⟩
  rcases keep_cases t c.1 c.2 with he | ⟨v, name, hkey, he⟩ | ⟨v, he⟩ <;> rw [he] at hchange
  · exact absurd rfl hchange
  · obtain rfl : name = k := Assoc.eq_of_get?_put_ne hchange
    exact hkey
  · exact absurd rfl hchange

theorem keepAll_data_changed {kept : List (String × List Value)}
    (h : (s.keepAll kept).data.get? k ≠ s.data.get? k) :
    ∃ c ∈ kept, c.1 = k ∨ c.1 = k ++ "+" := by
  obtain ⟨c, hc, t, hchange⟩ := keepAll_changed (f := fun s => s.data.get? k) h
  refine ⟨c, hc, ?_⟩
  rcases keep_cases t c.1 c.2 with he | ⟨v, name, hkey, he⟩ | ⟨v, he⟩ <;> rw [he] at hchange
  · exact absurd rfl hchange
  · obtain rfl : name = k := Assoc.eq_of_get?_put_ne hchange
    exact .inr hkey
  · exact .inl (Assoc.eq_of_get?_put_ne hchange)

/-- Captures go into the stores, and leave all else. -/
theorem keepAll_stored (s : Session) (kept : List (String × List Value)) :
    ∃ vars data, s.keepAll kept = { s with vars, data } := by
  induction kept generalizing s with
  | nil => exact ⟨s.vars, s.data, rfl⟩
  | cons c rest ih =>
    obtain ⟨vars, data, he⟩ := ih (s.keep c.1 c.2)
    have hcons : s.keepAll (c :: rest) = (s.keep c.1 c.2).keepAll rest := rfl
    refine ⟨vars, data, ?_⟩
    rw [hcons, he]
    rcases keep_cases s c.1 c.2 with hk | ⟨v, name, -, hk⟩ | ⟨v, hk⟩ <;> rw [hk]

theorem keepAll_status (s : Session) (kept : List (String × List Value)) :
    (s.keepAll kept).status = s.status := by
  obtain ⟨vars, data, he⟩ := keepAll_stored s kept
  rw [he]

theorem keepAll_files (s : Session) (kept : List (String × List Value)) :
    (s.keepAll kept).files = s.files := by
  obtain ⟨vars, data, he⟩ := keepAll_stored s kept
  rw [he]

theorem keepAll_client (s : Session) (kept : List (String × List Value)) :
    (s.keepAll kept).client = s.client := by
  obtain ⟨vars, data, he⟩ := keepAll_stored s kept
  rw [he]

theorem Unmarked.keep (h : s.Unmarked) {key : String} (hk : '=' ∉ key.toList)
    (values : List Value) : (s.keep key values).Unmarked := by
  rcases keep_cases s key values with he | ⟨v, name, rfl, he⟩ | ⟨v, he⟩ <;> rw [he]
  · exact h
  · have hname : '=' ∉ name.toList := fun hm => hk (by simp [hm])
    exact ⟨notMem_keys_put h.vars hname v, notMem_keys_put h.data hname v⟩
  · exact ⟨h.vars, notMem_keys_put h.data hk v⟩

theorem Unmarked.keepAll (h : s.Unmarked) {kept : List (String × List Value)}
    (hk : ∀ c ∈ kept, '=' ∉ c.1.toList) : (s.keepAll kept).Unmarked := by
  induction kept generalizing s with
  | nil => exact h
  | cons c rest ih =>
    rw [List.forall_mem_cons] at hk
    exact ih (h.keep hk.1 c.2) hk.2

end Captures

end Session
end RestShell
