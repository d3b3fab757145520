import RestShell.Proofs.Assoc
import RestShell.Proofs.Client.Composition

/-! The cookies of a client over its history. Every reply feeds them, whatever becomes of the
request, and nothing else does; so they are at any time what all replies so far have set,
one entry per name, and every request carries them. -/

namespace RestShell

namespace Cookies

/-- The jar holds what some pairs set: one entry per name, in the order in which the names
first appear, each with the last value set. -/
structure Records (jar : Cookies) (pairs : List (String × String)) : Prop where
  order : jar.keys = (pairs.map Prod.fst).eraseDups
  last : ∀ n, jar.get? n = Assoc.last? n pairs

theorem records_merge (pairs : List (String × String)) : Records (Assoc.merge [] pairs) pairs where
  order := Assoc.keys_merge_nil pairs
  last n := by
    rw [Assoc.get?_merge]
    exact Option.or_none

/-- Taking up header after header is taking up all of their pairs. -/
theorem foldl_absorb (headers : List String) (jar : Cookies) :
    headers.foldl absorb jar = Assoc.merge jar (headers.flatMap Cookie.read) := by
  induction headers generalizing jar with
  | nil => rfl
  | cons h r ih => rw [List.foldl_cons, ih, List.flatMap_cons, Assoc.merge_append, absorb]

end Cookies

namespace Cookie

/-- A name that a cookie may have: not empty, and no attribute in any letter case. -/
def Named (name : String) : Prop := name ≠ "" ∧ ∀ a ∈ attributes, Text.sameName name a = false

theorem named_of_mem_read {header : String} {pair : String × String} (h : pair ∈ read header) :
    Named pair.1 := by
  obtain ⟨part, -, hp⟩ := List.mem_filterMap.1 h
  unfold ofPart? at hp
  split at hp
  · cases hp
  · dsimp only at hp
    split at hp
    · cases hp
    · rename_i hn
      cases hp
      simp only [not_or] at hn
      refine ⟨hn.1, fun a ha => ?_⟩
      have hlower : ∀ a ∈ attributes, Text.asciiLower a = a := by decide
      rw [Text.sameName, hlower a ha, beq_eq_false_iff_ne]
      exact fun he => hn.2 (he ▸ ha)

end Cookie

/-- The cookies that a reply sets. -/
def Reply.cookies (r : Reply) : List (String × String) :=
  (r.headers.values "set-cookie").flatMap Cookie.read

/-- The replies to requests that are sent one after the other, after some others. -/
def Transport.replies (t : Transport) : List Request → List Request → List Reply
  | _, [] => []
  | before, r :: rest => (t before r).toOption.toList ++ t.replies (before ++ [r]) rest

theorem Transport.replies_concat (t : Transport) (before sent : List Request) (r : Request) :
    t.replies before (sent ++ [r]) =
      t.replies before sent ++ (t (before ++ sent) r).toOption.toList := by
  induction sent generalizing before with
  | nil => simp [replies]
  | cons q rest ih => simp [replies, ih]

namespace Client

/-- What a client is asked to send. -/
structure Call where
  method : String
  path : String
  options : RequestOptions := {}

/-- The client after some calls, answered or not. -/
def callAll (t : Transport) (c : Client) (calls : List Call) : Client :=
  calls.foldl (fun c call => (request t c call.method call.path call.options).client) c

/-- A client's cookies are those that the replies to all of its requests have set. -/
def Remembers (t : Transport) (c : Client) : Prop :=
  c.cookies = Assoc.merge [] ((t.replies [] c.sent).flatMap Reply.cookies)

/-- The cookies after a request are those before it and, if it was answered, the reply's. -/
theorem request_cookies (t : Transport) (c : Client) (method path : String) (o : RequestOptions) :
    (request t c method path o).client.cookies = Assoc.merge c.cookies
      ((t c.sent (c.compose method path o)).toOption.toList.flatMap Reply.cookies) := by
  unfold request
  dsimp only
  cases t c.sent (c.compose method path o) with
  | error reason => rfl
  | ok reply => simp [Cookies.foldl_absorb, Reply.cookies, Except.toOption]

theorem Remembers.request {t : Transport} {c : Client} (h : c.Remembers t) (method path : String)
    (o : RequestOptions) : (request t c method path o).client.Remembers t := by
  unfold Remembers at h ⊢
  rw [request_sent, t.replies_concat, List.flatMap_append, Assoc.merge_append, ← h, request_cookies]
  rfl

theorem callAll_remembers (t : Transport) {c : Client} (h : c.Remembers t) (calls : List Call) :
    (callAll t c calls).Remembers t := by
  induction calls generalizing c with
  | nil => exact h
  | cons call rest ih => exact ih (h.request call.method call.path call.options)

theorem length_sent_callAll (t : Transport) (c : Client) (calls : List Call) :
    (callAll t c calls).sent.length = c.sent.length + calls.length := by
  induction calls generalizing c with
  | nil => rfl
  | cons call rest ih =>
    have hcall : callAll t c (call :: rest) =
      callAll t (request t c call.method call.path call.options).client rest := rfl
    rw [hcall, ih, request_sent]
    simp
    omega

/-- The one cookie header of a request: the caller's, or else the cookies held, if any. -/
theorem compose_cookies (c : Client) (method path : String) (o : RequestOptions) :
    ((c.compose method path o).headers.filter fun h => Text.sameName h.1 "Cookie").map Prod.snd =
      match Headers.last? "Cookie" o.headers with
      | some own => [own]
      | none => if c.cookies = [] then [] else
          [Text.join '&' (c.cookies.map fun e => e.1 ++ "=" ++ e.2)] := by
  have hown : c.ownHeader? o "Cookie" = c.cookies.header? := by
    rw [ownHeader?, if_neg (by decide), if_pos (by decide)]
  rw [compose_headers, (requestHeaders_distinct c o).filter_eq, requestHeaders_get?, hown]
  cases Headers.last? "Cookie" o.headers with
  | some own => rfl
  | none =>
    unfold Cookies.header?
    split <;> rfl

/-- Before any request of a client, the cookies it holds are those that all replies so far
have set. They go out in one header unless the caller sends one, and all of their names are
names of cookies, each of them once. -/
theorem request_cookie_history (t : Transport) (base : Url) (insecure : Bool) (calls : List Call)
    (call : Call) :
    let c := callAll t { base, insecure } calls
    let r := c.compose call.method call.path call.options
    (c.sent.length = calls.length ∧
      (request t c call.method call.path call.options).client.sent = c.sent ++ [r]) ∧
    c.cookies.Records ((t.replies [] c.sent).flatMap Reply.cookies) ∧
    (r.headers.filter fun h => Text.sameName h.1 "Cookie").map Prod.snd =
      (match Headers.last? "Cookie" call.options.headers with
      | some own => [own]
      | none => if c.cookies = [] then [] else
          [Text.join '&' (c.cookies.map fun e => e.1 ++ "=" ++ e.2)]) ∧
    c.cookies.keys.Nodup ∧ ∀ n ∈ c.cookies.keys, Cookie.Named n := by
  intro c r
  have hfresh : Remembers t { base, insecure } := rfl
  have hc : c.cookies = Assoc.merge [] ((t.replies [] c.sent).flatMap Reply.cookies) :=
    callAll_remembers t hfresh calls
  have hrecords : c.cookies.Records ((t.replies [] c.sent).flatMap Reply.cookies) := by
    rw [hc]
    exact Cookies.records_merge _
  refine ⟨⟨?_, request_sent t c _ _ _⟩, hrecords, compose_cookies c _ _ _, ?_, fun n hn => ?_⟩
  · simpa using length_sent_callAll t { base, insecure } calls
  · rw [hc]
    exact Assoc.distinct_merge_nil _
  · rw [hrecords.order, List.mem_eraseDups] at hn
    obtain ⟨pair, hp, rfl⟩ := List.mem_map.1 hn
    obtain ⟨reply, -, hp⟩ := List.mem_flatMap.1 hp
    obtain ⟨header, -, hp⟩ := List.mem_flatMap.1 hp
    exact Cookie.named_of_mem_read hp

end Client
end RestShell
