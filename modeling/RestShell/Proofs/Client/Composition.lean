import RestShell.Proofs.Client.HeaderLookup
import RestShell.Proofs.Text.Pieces
import RestShell.Proofs.Text.UpperCase

/-! The request that a client sends. Its headers hold one value per name, the caller's before
the client's own, and its body is encoded as the content type among these headers asks,
whoever has set it. -/

namespace RestShell

namespace Payload

/-- A content type that begins as JSON does, case and surrounding blanks apart. -/
def NamesJson (contentType : String) : Prop :=
  jsonContentType.toList <+: (Text.asciiLower (Text.trim contentType)).toList

/-- A content type that is the one of forms, case and surrounding blanks apart. -/
def NamesForm (contentType : String) : Prop :=
  Text.asciiLower (Text.trim contentType) = formContentType

/-- The body that goes out for a payload under a content type. -/
inductive Sends (contentType : String) : Payload → Option Bytes → Prop where
  | raw (bs : Bytes) : Sends contentType (.raw bs) (some bs)
  | json (v : Json.Value) : NamesJson contentType →
      Sends contentType (.value v) (some (Text.bytes v.text))
  | form (fields : List (String × Json.Value)) : NamesForm contentType →
      Sends contentType (.value (.object fields)) (some (Text.bytes (Query.build "" fields)))
  | string (s : String) : ¬ NamesJson contentType →
      Sends contentType (.value (.string s)) (some (Text.bytes s))
  | null : ¬ NamesJson contentType → Sends contentType (.value .null) none
  | rest (v : Json.Value) : ¬ NamesJson contentType → (∀ s, v ≠ .string s) → v ≠ .null →
      (NamesForm contentType → ∀ fields, v ≠ .object fields) →
      Sends contentType (.value v) (some (Text.bytes v.text))

theorem isJsonType_iff (contentType : String) :
    isJsonType contentType = true ↔ NamesJson contentType := List.isPrefixOf_iff_prefix

theorem isJsonType_trim (contentType : String) :
    isJsonType (Text.trim contentType) = isJsonType contentType := by
  have htrim : Text.trim (Text.trim contentType) = Text.trim contentType := by
    simp [Text.trim, Chars.trim_trim]
  rw [isJsonType, htrim]
  rfl

theorem NamesForm.not_json {contentType : String} (h : NamesForm contentType) :
    ¬ NamesJson contentType := by
  rw [NamesJson, h]
  decide

variable {contentType : String}

/-- The encoding that a content type selects. -/
theorem ofType_some (contentType : String) : Encoding.ofType (some contentType) =
    if isJsonType contentType then .json
    else if Text.asciiLower (Text.trim contentType) = formContentType then .form
    else .other (Text.trim contentType) := by
  simp only [Encoding.ofType, Option.getD_some, isJsonType_trim]

theorem ofType_json (h : NamesJson contentType) : Encoding.ofType (some contentType) = .json := by
  rw [ofType_some, if_pos ((isJsonType_iff contentType).2 h)]

theorem ofType_form (h : NamesForm contentType) : Encoding.ofType (some contentType) = .form := by
  have hname : Text.asciiLower (Text.trim contentType) = formContentType := h
  rw [ofType_some, if_neg fun hj => h.not_json ((isJsonType_iff contentType).1 hj), if_pos hname]

theorem ofType_other (hj : ¬ NamesJson contentType) (hf : ¬ NamesForm contentType) :
    Encoding.ofType (some contentType) = .other (Text.trim contentType) := by
  have hname : Text.asciiLower (Text.trim contentType) ≠ formContentType := hf
  rw [ofType_some, if_neg fun h => hj ((isJsonType_iff contentType).1 h), if_neg hname]

/-- What is encoded for a content type is what goes out under it. -/
theorem sends_encode (contentType : String) (p : Payload) :
    p.Sends contentType (p.encode (.ofType (some contentType))) := by
  cases p with
  | raw bs => exact .raw bs
  | value v =>
    by_cases hj : NamesJson contentType
    · rw [ofType_json hj]
      exact .json v hj
    · by_cases hf : NamesForm contentType
      · rw [ofType_form hf]
        cases v with
        | null => exact .null hj
        | string s => exact .string s hj
        | object fields => exact .form fields hf
        | bool b => exact .rest _ hj (by simp) (by simp) (by simp)
        | number n => exact .rest _ hj (by simp) (by simp) (by simp)
        | array items => exact .rest _ hj (by simp) (by simp) (by simp)
      · rw [ofType_other hj hf]
        cases v with
        | null => exact .null hj
        | string s => exact .string s hj
        | object fields => exact .rest _ hj (by simp) (by simp) fun h => absurd h hf
        | bool b => exact .rest _ hj (by simp) (by simp) fun h => absurd h hf
        | number n => exact .rest _ hj (by simp) (by simp) fun h => absurd h hf
        | array items => exact .rest _ hj (by simp) (by simp) fun h => absurd h hf

/-- Only one body goes out for a payload under a content type. -/
theorem Sends.unique {p : Payload} {body body' : Option Bytes} (h : p.Sends contentType body)
    (h' : p.Sends contentType body') : body = body' := by
  cases h with
  | raw bs => cases h'; rfl
  | json v hj =>
    cases h' with
    | json => rfl
    | form _ hf => exact absurd hj hf.not_json
    | string _ hn => exact absurd hj hn
    | null hn => exact absurd hj hn
    | rest _ hn => exact absurd hj hn
  | form fields hf =>
    cases h' with
    | json _ hj => exact absurd hj hf.not_json
    | form => rfl
    | rest _ _ _ _ hn => exact absurd rfl (hn hf fields)
  | string s hn =>
    cases h' with
    | json _ hj => exact absurd hj hn
    | string => rfl
    | rest _ _ hs => exact absurd rfl (hs s)
  | null hn =>
    cases h' with
    | json _ hj => exact absurd hj hn
    | null => rfl
    | rest _ _ _ hs => exact absurd rfl hs
  | rest v hn hs hv hf =>
    cases h' with
    | json => rfl
    | form fields h => exact absurd rfl (hf h fields)
    | string s => exact absurd rfl (hs s)
    | null => exact absurd rfl hv
    | rest => rfl

/-- Encoding for a content type sends what the type asks for, and nothing else is sent so. -/
theorem encode_eq_iff {p : Payload} {body : Option Bytes} :
    p.encode (.ofType (some contentType)) = body ↔ p.Sends contentType body := by
  constructor
  · rintro rfl
    exact sends_encode contentType p
  · exact (sends_encode contentType p).unique

end Payload

namespace Client

/-- GET and HEAD in any letter case, and the empty method that stands for GET. -/
def BodilessMethod (method : String) : Prop :=
  method = "" ∨ Text.sameName method "GET" = true ∨ Text.sameName method "HEAD" = true

theorem isBodiless_effectiveMethod (method : String) :
    isBodiless (effectiveMethod method) = true ↔ BodilessMethod method := by
  unfold isBodiless effectiveMethod BodilessMethod
  by_cases hm : method = ""
  · simp [hm]
  · have hget : Text.upper method = "GET" ↔ Text.sameName method "GET" = true :=
      Text.upper_eq_iff (by decide) method
    have hhead : Text.upper method = "HEAD" ↔ Text.sameName method "HEAD" = true :=
      Text.upper_eq_iff (by decide) method
    simp [hm, hget, hhead]

/-- A content type is always sent, as the client sets one itself. -/
theorem requestHeaders_contentType (c : Client) (o : RequestOptions) :
    ∃ contentType, (c.requestHeaders o).get? "Content-Type" = some contentType := by
  rw [requestHeaders_get?]
  have hd : c.ownHeader? o "Content-Type" = some jsonContentType := by
    rw [ownHeader?, if_neg (by decide), if_neg (by decide), if_pos (by decide)]
  cases Headers.last? "Content-Type" o.headers with
  | none => exact ⟨_, hd⟩
  | some v => exact ⟨v, rfl⟩

theorem request_sent (t : Transport) (c : Client) (method path : String) (o : RequestOptions) :
    (request t c method path o).client.sent = c.sent ++ [c.compose method path o] := by
  unfold request
  dsimp only
  split <;> rfl

theorem request_base (t : Transport) (c : Client) (method path : String) (o : RequestOptions) :
    (request t c method path o).client.base = c.base := by
  unfold request
  dsimp only
  split <;> rfl

theorem compose_headers (c : Client) (method path : String) (o : RequestOptions) :
    (c.compose method path o).headers = c.requestHeaders o := by
  simp only [compose]

theorem compose_bodiless (c : Client) {method : String} (path : String) (o : RequestOptions)
    (hb : isBodiless (effectiveMethod method) = true) :
    (c.compose method path o).body = none := by
  unfold compose
  dsimp only
  rw [if_pos hb]

/-- The body is encoded for the content type that is sent, in whatever case its name is. -/
theorem compose_body {c : Client} {method : String} (path : String) {o : RequestOptions}
    (hb : ¬ isBodiless (effectiveMethod method) = true) {contentType : String}
    (hc : (c.requestHeaders o).get? "Content-Type" = some contentType) :
    (c.compose method path o).body =
      o.body.bind fun p => p.encode (.ofType (some contentType)) := by
  have hlower : (c.requestHeaders o).get? "content-type" = some contentType := by
    rw [Headers.get?_congr (a := "content-type") (b := "Content-Type") (by decide), hc]
  unfold compose
  dsimp only
  rw [if_neg hb, hlower]

/-- The request that goes out has one header per name, which is the caller's last one or else
the client's. It has no body for GET and HEAD, and for any other method the payload's as
the content type that is sent asks. -/
theorem request_agrees (t : Transport) (c : Client) (method path : String) (o : RequestOptions) :
    ∃ r, (request t c method path o).client.sent = c.sent ++ [r] ∧
      r.headers.Distinct ∧
      (∀ n, r.headers.get? n = (Headers.last? n o.headers).or (c.ownHeader? o n)) ∧
      (BodilessMethod method → r.body = none) ∧
      (¬ BodilessMethod method →
        ∃ contentType, r.headers.get? "Content-Type" = some contentType ∧
          (o.body = none → r.body = none) ∧
          ∀ p, o.body = some p → ∀ body, r.body = body ↔ p.Sends contentType body) := by
  refine ⟨_, request_sent t c method path o, ?_, fun n => ?_, fun hb => ?_, fun hb => ?_⟩
  · rw [compose_headers]
    exact requestHeaders_distinct c o
  · rw [compose_headers]
    exact requestHeaders_get? c o n
  · exact compose_bodiless c path o ((isBodiless_effectiveMethod method).2 hb)
  · rw [← isBodiless_effectiveMethod] at hb
    rw [compose_headers]
    obtain ⟨contentType, hc⟩ := requestHeaders_contentType c o
    have hbody := compose_body path hb hc
    refine ⟨contentType, hc, fun hn => ?_, fun p hp body => ?_⟩
    · rw [hbody, hn]
      rfl
    · rw [hbody, hp]
      exact Payload.encode_eq_iff

example :
    compose ⟨⟨"http", "api.test", 80, "/", "", "", ""⟩, [("sid", "1")], some "user:pass", false, []⟩
      "put" "/docs" { body := some (.value (.object [])), headers := [("ACCEPT", "*/*")] } =
    ⟨"PUT", "http://api.test/docs", [("Content-Type", "application/json"), ("Cookie", "sid=1"),
      ("Authorization", "Basic dXNlcjpwYXNz"), ("ACCEPT", "*/*")], some [123, 125]⟩ := by
  decide +kernel

end Client
end RestShell
