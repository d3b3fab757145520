import RestShell.Proofs.Client.Classification
import RestShell.Proofs.Client.Composition
import RestShell.Proofs.Session.Replies

/-! What a body decodes to. Behind its content coding that is settled by three things: whether its
content type is JSON, whether there is a body at all, and whether the first parameter of the content
type names a charset that is known. A response looks at its content type in the same way, so what it
takes for JSON has been read as JSON, and nothing else is projected. -/

namespace RestShell

theorem Text.split_of_cut {sep : Char} {s front rest : String}
    (h : Text.cut sep s = some (front, rest)) :
    Text.split sep s = front :: Text.split sep rest := by
  obtain ⟨⟨a, b⟩, hcut, he⟩ := Option.map_eq_some_iff.1 h
  cases he
  obtain ⟨hs, hsep⟩ := Chars.cut_eq_some hcut
  rw [Text.split, hs, Chars.split_append, Chars.split_of_notMem hsep, Text.split,
    String.toList_ofList]
  rfl

theorem Text.split_of_cut_eq_none {sep : Char} {s : String} (h : Text.cut sep s = none) :
    Text.split sep s = [s] := by
  rw [Text.split, Chars.split_of_notMem (Chars.cut_eq_none_iff.1 (Option.map_eq_none_iff.1 h))]
  simp

/-- The first piece is what stands before the first separator, if there is one. -/
theorem Text.split_eq_cutD (sep : Char) (s : String) :
    ∃ more, Text.split sep s = (Text.cutD sep s).1 :: more := by
  cases hcut : Text.cut sep s with
  | none => exact ⟨[], by rw [Text.split_of_cut_eq_none hcut, Text.cutD, hcut]; rfl⟩
  | some p => exact ⟨_, by rw [Text.split_of_cut hcut, Text.cutD, hcut]; rfl⟩

namespace Content
open Payload

variable {contentType : String} {bytes : Bytes} {v : Json.Value} {c : Charset}

section Charset

/-- The first parameter of a content type is a key, an equals sign and a value, and the value without
blanks and quotes around it is the label of a charset. -/
inductive NamesCharset (contentType : String) (c : Charset) : Prop where
  | intro {essence parameter : String} {more : List String} {key value : List Char} :
      Text.split ';' contentType = essence :: parameter :: more →
      (Text.trim parameter).toList = key ++ '=' :: value → '=' ∉ key →
      Charset.ofLabel? (Text.unquote (Text.trim (.ofList value))) = some c →
      NamesCharset contentType c

theorem charsetLabel?_eq (contentType : String) : charsetLabel? contentType =
    match Text.split ';' contentType with
    | _ :: parameter :: _ =>
      (Text.cut '=' (Text.trim parameter)).map fun p => Text.unquote (Text.trim p.2)
    | _ => none := by
  cases hcut : Text.cut ';' contentType with
  | none => rw [Text.split_of_cut_eq_none hcut, charsetLabel?, hcut]; rfl
  | some p =>
    obtain ⟨essence, rest⟩ := p
    obtain ⟨more, hmore⟩ := Text.split_eq_cutD ';' rest
    rw [Text.split_of_cut hcut, hmore, charsetLabel?, hcut]
    cases h : Text.cut '=' (Text.trim (Text.cutD ';' rest).1) <;> simp [h]

theorem charset?_eq_some_iff :
    (charsetLabel? contentType).bind Charset.ofLabel? = some c ↔ NamesCharset contentType c := by
  rw [charsetLabel?_eq]
  constructor
  · intro h
    split at h
    · rename_i essence parameter more hsplit
      obtain ⟨label, hlabel, hc⟩ := Option.bind_eq_some_iff.1 h
      obtain ⟨⟨key, value⟩, hcut, rfl⟩ := Option.map_eq_some_iff.1 hlabel
      obtain ⟨⟨k, w⟩, hchars, he⟩ := Option.map_eq_some_iff.1 hcut
      cases he
      obtain ⟨htrim, hkey⟩ := Chars.cut_eq_some hchars
      exact .intro hsplit htrim hkey hc
    · cases h
  · rintro ⟨hsplit, htrim, hkey, hc⟩
    simp only [hsplit, Text.cut, htrim, Chars.cut_append hkey, Option.map_some, Option.bind_some, hc]

end Charset

section Outcomes

/-- The value that bytes are read as: in the charset that is named, or as they are when none is. -/
inductive Reads (contentType : String) (bytes : Bytes) (v : Json.Value) : Prop where
  | text {c : Charset} : NamesCharset contentType c →
      Json.read (.ofList (c.decode bytes)) = .ok v → Reads contentType bytes v
  | bytes : (∀ c, ¬ NamesCharset contentType c) → Json.readBytes? bytes = some v →
      Reads contentType bytes v

/-- What bytes decode to, or why they cannot be decoded. -/
inductive Decoded (contentType : String) : Bytes → Except Fault Content → Prop where
  | null : NamesJson contentType → Decoded contentType [] (.ok (.json .null))
  | json {bytes : Bytes} {v : Json.Value} : NamesJson contentType → bytes ≠ [] →
      Reads contentType bytes v → Decoded contentType bytes (.ok (.json v))
  | notJson {bytes : Bytes} : NamesJson contentType → bytes ≠ [] →
      (∀ v, ¬ Reads contentType bytes v) → Decoded contentType bytes (.error (.notJson bytes))
  | text {bytes : Bytes} {c : Charset} : ¬ NamesJson contentType → bytes ≠ [] →
      NamesCharset contentType c → Decoded contentType bytes (.ok (.text (.ofList (c.decode bytes))))
  | raw {bytes : Bytes} : ¬ NamesJson contentType →
      (bytes = [] ∨ ∀ c, ¬ NamesCharset contentType c) → Decoded contentType bytes (.ok (.raw bytes))

theorem NamesCharset.unique {d : Charset} (hc : NamesCharset contentType c)
    (hd : NamesCharset contentType d) : c = d :=
  Option.some.inj ((charset?_eq_some_iff.2 hc).symm.trans (charset?_eq_some_iff.2 hd))

theorem text?_of_names (hne : bytes ≠ []) (hc : NamesCharset contentType c) :
    text? contentType bytes = some (.ofList (c.decode bytes)) := by
  rw [text?, if_neg hne, charset?_eq_some_iff.2 hc, Option.map_some]

theorem text?_of_unnamed (hnone : bytes = [] ∨ ∀ c, ¬ NamesCharset contentType c) :
    text? contentType bytes = none := by
  rw [text?]
  split
  · rfl
  · rename_i hne
    cases hc : (charsetLabel? contentType).bind Charset.ofLabel? with
    | none => rfl
    | some c => exact absurd (charset?_eq_some_iff.1 hc) (hnone.resolve_left hne c)

/-- A charset is named for bytes that are there, or none is. -/
theorem names_or (contentType : String) (bytes : Bytes) :
    (bytes ≠ [] ∧ ∃ c, NamesCharset contentType c) ∨
      (bytes = [] ∨ ∀ c, ¬ NamesCharset contentType c) := by
  by_cases h : bytes ≠ [] ∧ ∃ c, NamesCharset contentType c
  · exact .inl h
  · refine .inr (or_iff_not_imp_left.2 fun hne c hc => h ⟨hne, c, hc⟩)

/-- The JSON that bytes hold, from their text where that is known. -/
def parsed? (contentType : String) (bytes : Bytes) : Option Json.Value :=
  match text? contentType bytes with
  | some s => (Json.read s).toOption
  | none => Json.readBytes? bytes

theorem parsed?_eq_some_iff (hne : bytes ≠ []) :
    parsed? contentType bytes = some v ↔ Reads contentType bytes v := by
  rcases names_or contentType bytes with ⟨-, c, hc⟩ | hnone
  · rw [parsed?, text?_of_names hne hc]
    change (Json.read (.ofList (c.decode bytes))).toOption = some v ↔ _
    constructor
    · intro h
      cases hread : Json.read (.ofList (c.decode bytes)) with
      | ok w =>
        rw [hread] at h
        exact .text hc (hread.trans (congrArg _ (Option.some.inj h)))
      | error e => simp [hread, Except.toOption] at h
    · rintro (⟨hd, hread⟩ | ⟨hunnamed, -⟩)
      · cases hc.unique hd
        rw [hread]
        rfl
      · exact absurd hc (hunnamed c)
  · have hunnamed := hnone.resolve_left hne
    rw [parsed?, text?_of_unnamed hnone]
    refine ⟨.bytes hunnamed, ?_⟩
    rintro (⟨hd, -⟩ | ⟨-, hread⟩)
    · exact absurd hd (hunnamed _)
    · exact hread

theorem parsed?_eq_none_iff (hne : bytes ≠ []) :
    parsed? contentType bytes = none ↔ ∀ v, ¬ Reads contentType bytes v := by
  simp only [Option.eq_none_iff_forall_ne_some, ne_eq, parsed?_eq_some_iff hne]

theorem ofBytes_of_json (hj : NamesJson contentType) (hne : bytes ≠ []) :
    ofBytes contentType bytes = match parsed? contentType bytes with
      | some v => .ok (.json v)
      | none => .error (.notJson bytes) := by
  rw [ofBytes, if_pos ((isJsonType_iff contentType).2 hj), if_neg hne]
  rfl

theorem ofBytes_of_not_json (hn : ¬ NamesJson contentType) :
    ofBytes contentType bytes = .ok (match text? contentType bytes with
      | some s => .text s
      | none => .raw bytes) := by
  unfold ofBytes
  exact if_neg fun h => hn ((isJsonType_iff contentType).1 h)

theorem decoded_ofBytes (contentType : String) (bytes : Bytes) :
    Decoded contentType bytes (ofBytes contentType bytes) := by
  by_cases hj : NamesJson contentType
  · by_cases hne : bytes = []
    · subst hne
      rw [ofBytes, if_pos ((isJsonType_iff contentType).2 hj), if_pos rfl]
      exact .null hj
    · rw [ofBytes_of_json hj hne]
      cases hparsed : parsed? contentType bytes with
      | some v => exact .json hj hne ((parsed?_eq_some_iff hne).1 hparsed)
      | none => exact .notJson hj hne ((parsed?_eq_none_iff hne).1 hparsed)
  · rw [ofBytes_of_not_json hj]
    rcases names_or contentType bytes with ⟨hne, c, hc⟩ | hnone
    · rw [text?_of_names hne hc]
      exact .text hj hne hc
    · rw [text?_of_unnamed hnone]
      exact .raw hj hnone

theorem Decoded.ofBytes_eq {outcome : Except Fault Content}
    (hd : Decoded contentType bytes outcome) : ofBytes contentType bytes = outcome := by
  cases hd with
  | null hj => rw [ofBytes, if_pos ((isJsonType_iff contentType).2 hj), if_pos rfl]
  | json hj hne hv => rw [ofBytes_of_json hj hne, (parsed?_eq_some_iff hne).2 hv]
  | notJson hj hne hnone => rw [ofBytes_of_json hj hne, (parsed?_eq_none_iff hne).2 hnone]
  | text hn hne hc => rw [ofBytes_of_not_json hn, text?_of_names hne hc]
  | raw hn hnone => rw [ofBytes_of_not_json hn, text?_of_unnamed hnone]

/-- A body decodes to this outcome just when the bytes under its content coding do. -/
theorem decode_eq_iff {h : ReplyHeaders} {body : Bytes} (hbytes : Unpacks h body bytes)
    (outcome : Except Fault Content) :
    decode h body = outcome ↔ Decoded (typeOf h) bytes outcome := by
  have hof : decode h body = ofBytes (typeOf h) bytes := by
    rw [decode_eq, decompress_eq_ok_iff.2 hbytes, Except.bind]
  rw [hof]
  exact ⟨fun he => he ▸ decoded_ofBytes _ _, fun hd => hd.ofBytes_eq⟩

theorem Decoded.json_iff {content : Content} (hd : Decoded contentType bytes (.ok content)) :
    (∃ v, content = .json v) ↔ NamesJson contentType := by
  cases hd with
  | null hj => exact iff_of_true ⟨_, rfl⟩ hj
  | json hj => exact iff_of_true ⟨_, rfl⟩ hj
  | text hn => exact iff_of_false (fun ⟨v, hv⟩ => nomatch hv) hn
  | raw hn => exact iff_of_false (fun ⟨v, hv⟩ => nomatch hv) hn

/-- A body that decodes at all has bytes under its content coding. -/
theorem exists_unpacks {h : ReplyHeaders} {body : Bytes} {content : Content}
    (hd : decode h body = .ok content) : ∃ bytes, Unpacks h body bytes := by
  obtain ⟨bytes, hbytes, -⟩ := decode_eq_ok_iff.1 ⟨content, hd⟩
  exact ⟨bytes, hbytes⟩

end Outcomes
end Content

namespace Response

theorem isJson_iff (r : Reply) (content : Content) :
    (Response.ofReply r content).isJson = true ↔ Payload.NamesJson (Content.typeOf r.headers) := by
  have hname : Text.asciiLower "content-type" = "content-type" := by decide
  rw [isJson, contentType?, header?, ReplyHeaders.first?, hname, ← Payload.isJsonType_iff,
    Content.typeOf]
  change ((r.headers.values "content-type").head?.any isJsonType) = true ↔ _
  cases (r.headers.values "content-type").head? with
  | none =>
    have hempty : isJsonType "" = false := by decide +kernel
    simp [hempty]
  | some contentType => rw [Option.any_some, Option.getD_some]

end Response

/-- The arguments, but for the part of the response that they ask for. -/
def Arguments.whole (a : Arguments) : Arguments :=
  { a with extract := [], exclude := [], captures := [] }

namespace Session
variable {r : Response} {outcome : Except ClientError Response}

theorem conclude_of_not_json (hr : responseOf outcome = some r) (hj : r.isJson = false)
    (s : Session) (a : Arguments) (summarize : Bool) :
    s.conclude a summarize outcome = s.conclude a.whole summarize outcome := by
  rw [conclude_of_whole hr (by rw [hj, Bool.and_false]), conclude_of_whole hr rfl]
  rfl

end Session

open Session in
/-- Decoding agrees with the look that a response takes at its content type. Whatever its headers, a
body with bytes under its content coding decodes to what these are in the relation, and fails only
for JSON that cannot be read; and a response is JSON just when its body was read as JSON. So a
projection is made of that, and of nothing else. -/
theorem Content.decode_agrees (h : ReplyHeaders) (body : Bytes) :
    (∀ bytes, Unpacks h body bytes →
      ∀ outcome, decode h body = outcome ↔ Decoded (typeOf h) bytes outcome) ∧
    ∀ content, decode h body = .ok content → ∀ status elapsed,
      let r := Response.ofReply ⟨status, h, body, elapsed⟩ content
      (r.isJson = true ↔ ∃ v, content = .json v) ∧
      ∀ (s : Session) (a : Arguments) (summarize : Bool) (outcome : Except ClientError Response),
        responseOf outcome = some r →
        ((∃ v, content = .json v) → wantsPart a = true → ∀ fault,
          Projection.of (bodyShown content) a.extract a.exclude a.captures = .error fault →
          (s.conclude a summarize outcome).2 = [.error fault.message]) ∧
        ((∀ v, content ≠ .json v) →
          s.conclude a summarize outcome = s.conclude a.whole summarize outcome) := by
  refine ⟨fun bytes hbytes outcome => decode_eq_iff hbytes outcome, ?_⟩
  intro content hcontent status elapsed r
  obtain ⟨bytes, hbytes⟩ := exists_unpacks hcontent
  have hjson : r.isJson = true ↔ ∃ v, content = .json v :=
    (Response.isJson_iff _ content).trans ((decode_eq_iff hbytes _).1 hcontent).json_iff.symm
  refine ⟨hjson, fun s a summarize outcome hr => ⟨fun hv hw fault hp => ?_, fun hnone => ?_⟩⟩
  · have hpart : (wantsPart a && r.isJson) = true := by rw [hw, hjson.2 hv, Bool.and_self]
    rw [conclude_of_fault hr hpart hp]
  · have hfalse : r.isJson = false := by
      rw [Bool.eq_false_iff, ne_eq, hjson]
      exact fun ⟨v, hv⟩ => hnone v hv
    exact conclude_of_not_json hr hfalse s a summarize

end RestShell
