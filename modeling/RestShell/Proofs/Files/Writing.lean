import RestShell.Files.Tree

/-! Writing behind a file. A file takes no folder's place, so every path leads where it led
before; what is written stands behind what was there, and the file can be written again. -/

namespace RestShell
namespace Files
variable {fs : Files} {path : String} {segments : List String}

section Put
variable {n : Node}

/-- The working folder is a folder, whatever else there is. -/
theorem ne_nil_of_free (h : fs.nodeAt? (.inside segments) ≠ some .folder) : segments ≠ [] := by
  rintro rfl
  exact h rfl

theorem nodeAt?_inside (h : segments ≠ []) (fs : Files) :
    fs.nodeAt? (.inside segments) = Assoc.get? (key segments) fs := if_neg h

theorem nodeAt?_putAt_self (h : segments ≠ []) :
    (fs.putAt (.inside segments) n).nodeAt? (.inside segments) = some n := by
  rw [nodeAt?_inside h, putAt, Assoc.get?_put, if_pos rfl]

/-- A folder stays one when a node is put where none is. -/
theorem nodeAt?_putAt_folder (hfree : fs.nodeAt? (.inside segments) ≠ some .folder) {spot : Spot}
    (h : fs.nodeAt? spot = some .folder) :
    (fs.putAt (.inside segments) n).nodeAt? spot = some .folder := by
  cases spot with
  | outside other => exact h
  | inside other =>
    by_cases ho : other = []
    · rw [ho]
      rfl
    · have hs : segments ≠ [] := ne_nil_of_free hfree
      rw [nodeAt?_inside ho] at h ⊢
      rw [nodeAt?_inside hs] at hfree
      have hkey : key segments ≠ key other := by
        intro he
        exact hfree (he ▸ h)
      rw [putAt, Assoc.get?_put, if_neg hkey]
      exact h

/-- A walk goes through folders only. -/
theorem walk_putAt (hfree : fs.nodeAt? (.inside segments) ≠ some .folder) {start spot : Spot}
    {names : List String} (h : fs.walk start names = .ok spot) :
    (fs.putAt (.inside segments) n).walk start names = .ok spot := by
  induction names generalizing start with
  | nil => exact h
  | cons name rest ih =>
    unfold walk at h ⊢
    split at h
    · cases h
    · rename_i hlength
      rw [if_neg hlength]
      -- the next place is a folder, so it is not where the node was put
      dsimp only at h ⊢
      split at h
      · cases h
      · cases h
      · rename_i hfolder
        rw [nodeAt?_putAt_folder hfree hfolder]
        exact ih h

theorem parent_putAt (hfree : fs.nodeAt? (.inside segments) ≠ some .folder)
    {p : Spot × Option String × Bool} (h : fs.parent path = .ok p) :
    (fs.putAt (.inside segments) n).parent path = .ok p := by
  unfold parent at h ⊢
  dsimp only at h ⊢
  split at h
  · cases h
  · rename_i hzero
    rw [if_neg hzero]
    split at h
    · cases h
    · rename_i hempty
      rw [if_neg hempty]
      split at h
      · cases h
      · rename_i hlong
        rw [if_neg hlong]
        generalize (if (parts path).2.1 = true then Spot.outside [] else Spot.inside []) = start
          at h ⊢
        cases hw : fs.walk start (parts path).1.dropLast with
        | error e =>
          rw [hw] at h
          cases h
        | ok spot =>
          rw [walk_putAt hfree hw]
          rw [hw] at h
          exact h

end Put

section Write
variable {spot : Spot}

/-- A path leads to a place where a file can be written. -/
structure Leads (fs : Files) (path : String) (place : Spot) (name : String) : Prop where
  parent : fs.parent path = .ok (place, some name, false)
  ne_dot : name ≠ "."
  ne_dots : name ≠ ".."
  short : ¬ 255 < (Text.bytes name).length
  free : fs.nodeAt? (enter place name) ≠ some .folder

theorem leads_of_writable (h : fs.writable path = .ok spot) :
    ∃ place name, spot = enter place name ∧ fs.Leads path place name := by
  unfold writable at h
  cases hp : fs.parent path with
  | error e =>
    rw [hp] at h
    cases h
  | ok p =>
    obtain ⟨place, name?, folder⟩ := p
    rw [hp] at h
    dsimp only [bind, Except.bind] at h
    split at h
    · cases h
    · cases h
    · cases h
    · rename_i name hdot hdots
      split at h
      · cases h
      · rename_i hfolder
        split at h
        · cases h
        · rename_i hlength
          split at h
          · cases h
          · rename_i hn
            cases h
            obtain rfl : folder = false := by simpa using hfolder
            exact ⟨place, name, rfl, hp, hdot, hdots, hlength, hn⟩

theorem Leads.writable {place : Spot} {name : String} (h : fs.Leads path place name) :
    fs.writable path = .ok (enter place name) := by
  obtain ⟨hp, hdot, hdots, hlength, hfree⟩ := h
  unfold Files.writable
  rw [hp]
  dsimp only [bind, Except.bind]
  split
  · rename_i h
    cases h
  · rename_i h
    exact absurd (Option.some.inj h) hdot
  · rename_i h
    exact absurd (Option.some.inj h) hdots
  · rename_i other _ _ h
    obtain rfl : name = other := Option.some.inj h
    rw [if_neg (by decide), if_neg hlength]
    split
    · rename_i hfolder
      exact absurd hfolder hfree
    · rfl

/-- A file that was written can be written again. -/
theorem writable_putAt (h : fs.writable path = .ok (.inside segments)) (content : Bytes) :
    (fs.putAt (.inside segments) (.file content)).writable path = .ok (.inside segments) := by
  obtain ⟨place, name, hspot, hleads⟩ := leads_of_writable h
  have hfree : fs.nodeAt? (.inside segments) ≠ some .folder := hspot ▸ hleads.free
  rw [hspot]
  refine Leads.writable ⟨?_, hleads.ne_dot, hleads.ne_dots, hleads.short, ?_⟩
  · rw [← hspot]
    exact parent_putAt hfree hleads.parent
  · rw [← hspot, nodeAt?_putAt_self (ne_nil_of_free hfree)]
    nofun

/-- What stands in the file that a path leads to; in none there is nothing. -/
def held (fs : Files) (path : String) : Bytes :=
  match fs.writable path with
  | .ok spot =>
    match fs.nodeAt? spot with
    | some (.file content) => content
    | _ => []
  | .error _ => []

/-- A file holds what was put there. -/
theorem held_putAt (h : fs.writable path = .ok (.inside segments)) (content : Bytes) :
    (fs.putAt (.inside segments) (.file content)).held path = content := by
  have hsegments : segments ≠ [] := by
    obtain ⟨place, name, hspot, hleads⟩ := leads_of_writable h
    exact ne_nil_of_free (hspot ▸ hleads.free)
  simp only [held, writable_putAt h content, nodeAt?_putAt_self hsegments]

/-- A file that can be written gets its content, behind what it held or in place of it. -/
theorem write_of_writable (h : fs.writable path = .ok spot) (continued : Bool) (content : Bytes) :
    fs.write continued path content =
      .ok (fs.putAt spot (.file ((if continued then fs.held path else []) ++ content))) := by
  have hheld : fs.held path = match fs.nodeAt? spot with
      | some (.file bs) => bs
      | _ => [] := by
    simp only [held, h]
  unfold write
  rw [h, hheld]
  dsimp only [bind, Except.bind, pure, Except.pure]
  cases continued with
  | true => rcases fs.nodeAt? spot with _ | ⟨bs⟩ | _ <;> rfl
  | false => rfl

theorem write_of_not_writable {e : FileError} (h : fs.writable path = .error e) (continued : Bool)
    (content : Bytes) : fs.write continued path content = .error e := by
  unfold write
  rw [h]
  rfl

/-- What is written behind a file stands behind what it held. -/
theorem write_continued (h : fs.writable path = .ok (.inside segments)) (content : Bytes) :
    ∃ fs', fs.write true path content = .ok fs' ∧ fs'.held path = fs.held path ++ content :=
  ⟨_, write_of_writable h true content, held_putAt h _⟩

/-- One file was written: a node with its content stands at a place, and is what the path to it
leads to if that place is in the working folder; every other node is as it was. -/
structure Wrote (fs : Files) (path : String) (spot : Spot) (content : Bytes) (fs' : Files) :
    Prop where
  put : fs' = fs.putAt spot (.file content)
  held : ∀ segments, spot = .inside segments → fs'.held path = content
  frame : ∀ k, (∀ segments, spot = .inside segments → key segments ≠ k) →
    Assoc.get? k fs' = Assoc.get? k fs

theorem wrote_putAt (h : fs.writable path = .ok spot) (content : Bytes) :
    fs.Wrote path spot content (fs.putAt spot (.file content)) where
  put := rfl
  held := by
    rintro segments rfl
    exact held_putAt h content
  frame k hk := by
    cases spot with
    | inside segments => rw [putAt, Assoc.get?_put, if_neg (hk segments rfl)]
    | outside segments => rfl

end Write

end Files
end RestShell
