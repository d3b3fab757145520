import RestShell.Proofs.Assoc
import RestShell.Proofs.Line.Scan

/-! The parameters that a line is read into: what JSON mappings and tokens put into them. No name
of a parameter occurs twice. -/

namespace RestShell

open Json

namespace Parameter

theorem distinct_assign {m : Assoc Value} (h : m.Distinct) (path : List String) (v : Value) :
    (assign path v m).Distinct := by
  match path with
  | [] => exact h
  | [k] => exact h.put k v
  | k :: j :: ks => exact h.put k _

theorem distinct_add {data m m' : Assoc Value} {token : String} (h : m.Distinct)
    (ha : add data token m = .ok m') : m'.Distinct := by
  unfold add at ha
  cases hr : read data token with
  | error e =>
    rw [hr] at ha
    cases ha
  | ok r =>
    rw [hr] at ha
    cases ha
    exact distinct_assign h _ r.2

end Parameter

namespace Arguments
variable {data : Assoc Value} {a b : Arguments} {words : List String}

theorem turn_params (a : Arguments) (s : Switch) : (a.turn s).params = a.params := by
  cases s <;> rfl

/-- The value of a flag adds the parameters of a mapping, or none. -/
theorem take_params {flag : ValueFlag} {value : String} (h : a.take flag value = .ok b) :
    b.params = a.params ∨ ∃ fields, b.params = a.params.merge fields := by
  unfold take at h
  cases flag with
  | redirect | url | extract | exclude =>
    cases h
    exact .inl rfl
  | file =>
    dsimp only at h
    split at h <;> cases h
  | basic | query | header | capture =>
    dsimp only at h
    split at h <;> cases h
    exact .inl rfl
  | json =>
    dsimp only at h
    split at h <;> cases h
    exact .inr ⟨_, rfl⟩

/-- A bare word is no parameter, or adds one. -/
theorem bare_params {word : String} (h : a.bare data word = .ok b) :
    b.params = a.params ∨ Parameter.add data word a.params = .ok b.params := by
  unfold bare at h
  split at h
  · cases h
    exact .inl rfl
  · split at h
    · split at h
      · cases h
        exact .inl rfl
      · cases hadd : Parameter.add data word a.params with
        | error e =>
          rw [hadd] at h
          cases h
        | ok params =>
          rw [hadd] at h
          cases h
          exact .inr rfl
    · cases h
      exact .inl rfl

theorem distinct_params {color formatted : Bool} (h : read data color formatted words = .ok a) :
    a.params.Distinct := by
  refine scan_invariant (P := fun a => a.params.Distinct) (fun _ _ ha => ha) ?_ ?_ ?_ h
    List.nodup_nil
  · intro a s ha
    rw [turn_params]
    exact ha
  · intro a flag value b ha ht
    rcases take_params ht with hb | ⟨fields, hb⟩ <;> rw [hb]
    · exact ha
    · exact ha.merge fields
  · intro a word b ha hb
    rcases bare_params hb with hb | hb
    · rw [hb]
      exact ha
    · exact Parameter.distinct_add ha hb

end Arguments
end RestShell
