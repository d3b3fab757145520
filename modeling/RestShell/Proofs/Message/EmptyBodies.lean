import RestShell.Proofs.Message.Decoding

/-! Bodies with nothing in them. A content coding is undone before a body is seen to be empty, and
none of the codings has a stream without bytes. So an empty body decodes, to null or to no bytes,
just when its content coding is not among the known ones. -/

namespace RestShell

namespace Coding

/-- The names that stand for a coding. -/
def names : List String := ["gzip", "x-gzip", "deflate", "zstd"]

theorem ofName?_eq_none_iff (name : String) :
    ofName? name = none ↔ Text.asciiLower (Text.trim name) ∉ names := by
  unfold ofName?
  generalize Text.asciiLower (Text.trim name) = s
  split
  · simp [names]
  · simp [names]
  · simp [names]
  · simp [names]
  · rename_i hgzip hother hdeflate hzstd
    exact iff_of_true rfl (by simpa [names] using ⟨hgzip, hother, hdeflate, hzstd⟩)

/-- What is wrong with a stream without bytes. -/
def emptyFault : Coding → Fault
  | .gzip => .gzip .ended
  | .deflate => .deflate .incomplete
  | .zstd => .zstd .incomplete

theorem decode_nil (c : Coding) : c.decode [] = .error c.emptyFault := by
  cases c <;> rfl

end Coding

namespace Content
open Payload

variable {h : ReplyHeaders}

theorem decode_nil_of_coded {name : String} {coding : Coding}
    (hname : (h.values "content-encoding").head? = some name)
    (hcoding : Coding.ofName? name = some coding) :
    decode h [] = .error (.coding name coding.emptyFault) := by
  simp only [decode_eq, hname, decompress, hcoding, Coding.decode_nil, Except.mapError, Except.bind]

theorem unpacks_nil (hknown : ∀ name, (h.values "content-encoding").head? = some name →
    Coding.ofName? name = none) : Unpacks h [] [] := by
  cases hname : (h.values "content-encoding").head? with
  | none => exact .plain hname
  | some name => exact .unknown hname (hknown name hname)

/-- An empty body decodes just when its content coding is none that is known: to null under a
content type of JSON, and to no bytes under any other. Under a known one it fails as a stream of
that coding that ends before it begins. -/
theorem decode_empty_iff (h : ReplyHeaders) :
    (((NamesJson (typeOf h) → decode h [] = .ok (.json .null)) ∧
        (¬ NamesJson (typeOf h) → decode h [] = .ok (.raw []))) ↔
      ∀ name, (h.values "content-encoding").head? = some name →
        Text.asciiLower (Text.trim name) ∉ Coding.names) ∧
    ∀ name coding, (h.values "content-encoding").head? = some name →
      Coding.ofName? name = some coding →
      decode h [] = .error (.coding name coding.emptyFault) := by
  refine ⟨⟨?_, fun hunknown => ?_⟩, fun name coding => decode_nil_of_coded⟩
  · rintro ⟨hjson, hother⟩ name hname
    rw [← Coding.ofName?_eq_none_iff]
    cases hcoding : Coding.ofName? name with
    | none => rfl
    | some coding =>
      have herror := decode_nil_of_coded hname hcoding
      by_cases hj : NamesJson (typeOf h)
      · cases herror.symm.trans (hjson hj)
      · cases herror.symm.trans (hother hj)
  · have hbytes : Unpacks h [] [] := unpacks_nil fun name hname =>
      (Coding.ofName?_eq_none_iff name).2 (hunknown name hname)
    exact ⟨fun hj => (decode_eq_iff hbytes _).2 (.null hj),
      fun hj => (decode_eq_iff hbytes _).2 (.raw hj (.inl rfl))⟩

/-- An empty body of JSON that says it is compressed, as a response to a request for the headers
alone may, does not decode. -/
theorem decode_empty_compressed :
    let h : ReplyHeaders := [("content-encoding", ["gzip"]), ("content-type", ["application/json"])]
    NamesJson (typeOf h) ∧ decode h [] ≠ .ok (.json .null) ∧
      decode h [] = .error (.coding "gzip" (.gzip .ended)) := by
  intro h
  have hfault : decode h [] = .error (.coding "gzip" (.gzip .ended)) := by decide +kernel
  exact ⟨(isJsonType_iff _).1 (by decide +kernel), by rw [hfault]; nofun, hfault⟩

end Content
end RestShell
