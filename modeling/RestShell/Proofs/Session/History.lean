import RestShell.Proofs.Files.Writing
import RestShell.Proofs.Session.Settings

/-! The history of a session. Which file it is no line changes; what it gets of a line is the
line with an end of its own, behind all that is there, and of a blank line nothing. -/

namespace RestShell

open Json

namespace Session
variable {w : World} {s s' : Session} {a : Arguments}

section File

theorem runWords_histfile (w : World) (s : Session) (words : List String) (summarize : Bool) :
    (s.runWords w words summarize).session.options.histfile = s.options.histfile :=
  (runWords_changes w s words summarize).histfile

/-- No line changes which file the history is. -/
theorem runLine_histfile (w : World) (s : Session) (line : String) :
    (s.runLine w line).session.options.histfile = s.options.histfile :=
  (runLine_changes w s line).histfile

end File

section Content

/-- What stands in the history. -/
def history (s : Session) : Bytes := s.files.held s.options.histfile

/-- The history is a file in the working folder that can be written. -/
def Recordable (s : Session) : Prop :=
  ∃ segments, s.files.writable s.options.histfile = .ok (.inside segments)

/-- What the history gets of a line. -/
def recorded (line : String) : Bytes :=
  if Text.isBlank line then [] else Text.bytes (line ++ "\n")

theorem remember_options (s : Session) (line : String) :
    (s.remember line).options = s.options := by
  unfold remember
  split
  · rfl
  · split <;> rfl

/-- A line goes behind what the history holds. -/
theorem remember_history (h : s.Recordable) (line : String) :
    (s.remember line).history = s.history ++ recorded line := by
  obtain ⟨segments, hw⟩ := h
  unfold recorded remember historyEntry?
  by_cases hb : Text.isBlank line = true
  · rw [if_pos hb, if_pos hb, List.append_nil]
  · rw [if_neg hb, if_neg hb]
    obtain ⟨files, hwrite, hheld⟩ := Files.write_continued hw (Text.bytes (line ++ "\n"))
    dsimp only
    rw [hwrite]
    exact hheld

end Content

end Session
end RestShell
