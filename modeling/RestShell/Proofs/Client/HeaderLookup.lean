import RestShell.Client.Basic

/-! What a request's headers hold under a name. Headers are set one after the other, each
one over those before it, so that the last one of a name counts; a client sets its own
headers before those of the caller. -/

namespace RestShell

namespace Headers

/-- The value of the last entry under a name. -/
def last? (name : String) (h : Headers) : Option String := get? name h.reverse

theorem sameName_congr {a b : String} (h : Text.sameName a b = true) (n : String) :
    Text.sameName a n = Text.sameName b n := by
  simp only [Text.sameName, beq_iff_eq] at h ⊢
  rw [h]

theorem get?_congr {a b : String} (h : Text.sameName a b = true) (headers : Headers) :
    get? a headers = get? b headers := by
  unfold get?
  congr 2
  funext e
  rw [sameName_comm e.1 a, sameName_comm e.1 b, sameName_congr h]

theorem get?_cons (e : String × String) (r : Headers) (n : String) :
    get? n (e :: r) = if Text.sameName e.1 n then some e.2 else get? n r := by
  unfold get?
  rw [List.find?_cons]
  cases Text.sameName e.1 n <;> rfl

theorem get?_append (a b : Headers) (n : String) : get? n (a ++ b) = (get? n a).or (get? n b) := by
  unfold get?
  rw [List.find?_append, Option.map_or]

theorem get?_put (name value : String) (h : Headers) (n : String) :
    (h.put name value).get? n = if Text.sameName name n then some value else h.get? n := by
  have hlast : get? n [(name, value)] = if Text.sameName name n then some value else none :=
    get?_cons _ _ _
  rw [put, get?_append, hlast]
  induction h with
  | nil => rfl
  | cons e r ih =>
    rw [List.filter_cons, get?_cons]
    by_cases he : Text.sameName e.1 name = true
    · -- the entry goes, and it was found under the same names as the new one
      rw [if_neg (by simp [he]), ih, sameName_congr he]
      split <;> rfl
    · rw [if_pos (by simp [he]), get?_cons]
      by_cases hn : Text.sameName e.1 n = true
      · have hne : ¬ Text.sameName name n = true := fun h =>
          he (by rw [sameName_comm, sameName_congr h, sameName_comm, hn])
        simp [hn, hne]
      · simpa [hn] using ih

theorem last?_append (a b : Headers) (n : String) :
    last? n (a ++ b) = (last? n b).or (last? n a) := by
  rw [last?, List.reverse_append, get?_append]
  rfl

theorem last?_cons (e : String × String) (r : Headers) (n : String) :
    last? n (e :: r) = (last? n r).or (if Text.sameName e.1 n then some e.2 else none) := by
  rw [← List.singleton_append, last?_append]
  exact congrArg _ (get?_cons e [] n)

/-- Of the headers set, the last one of a name is found under it; else one set before. -/
theorem get?_putAll (h more : Headers) (n : String) :
    (h.putAll more).get? n = (last? n more).or (h.get? n) := by
  induction more generalizing h with
  | nil => rfl
  | cons e r ih =>
    have hput : h.putAll (e :: r) = (h.put e.1 e.2).putAll r := rfl
    rw [hput, ih, get?_put, last?_cons]
    cases last? n r <;> split <;> rfl

/-- Where no two names are equal but for case, there is one entry under a name at most. -/
theorem Distinct.filter_eq {h : Headers} (hd : h.Distinct) (n : String) :
    (h.filter fun e => Text.sameName e.1 n).map Prod.snd = (h.get? n).toList := by
  induction h with
  | nil => rfl
  | cons e r ih =>
    obtain ⟨he, hr⟩ := List.pairwise_cons.1 hd
    rw [List.filter_cons, get?_cons]
    by_cases hn : Text.sameName e.1 n = true
    · have hnone : r.filter (fun f => Text.sameName f.1 n) = [] := by
        rw [List.filter_eq_nil_iff]
        intro f hf hfn
        have := he f hf
        rw [sameName_congr hn, sameName_comm, hfn] at this
        cases this
      rw [if_pos hn, if_pos hn, List.map_cons, hnone]
      rfl
    · rw [if_neg hn, if_neg hn]
      exact ih hr

end Headers

namespace Client

/-- What a client sets under a name if the caller sets nothing. -/
def ownHeader? (c : Client) (o : RequestOptions) (name : String) : Option String :=
  if Text.sameName name "Authorization" then
    (o.credential <|> c.credential).map fun s => "Basic " ++ Base64.encode s
  else if Text.sameName name "Cookie" then c.cookies.header?
  else if Text.sameName name "Content-Type" || Text.sameName name "Accept" then some jsonContentType
  else none

theorem requestHeaders_distinct (c : Client) (o : RequestOptions) :
    (c.requestHeaders o).Distinct := Headers.Distinct.putAll List.Pairwise.nil _

theorem last?_optional (name n : String) (value : Option String) :
    Headers.last? n (value.toList.map (name, ·)) =
      if Text.sameName name n then value else none := by
  cases value with
  | none => simp [Headers.last?, Headers.get?]
  | some v => exact Headers.get?_cons (name, v) [] n

/-- Under a name stands the caller's last header of it, or else the client's own. -/
theorem requestHeaders_get? (c : Client) (o : RequestOptions) (n : String) :
    (c.requestHeaders o).get? n = (Headers.last? n o.headers).or (c.ownHeader? o n) := by
  have hnone : Headers.get? n [] = none := rfl
  have hcredential : ((o.credential <|> c.credential).toList.map fun s =>
      ("Authorization", "Basic " ++ Base64.encode s)) =
      ((o.credential <|> c.credential).map fun s => "Basic " ++ Base64.encode s).toList.map
        ("Authorization", ·) := by
    cases (o.credential <|> c.credential) <;> rfl
  rw [requestHeaders, Headers.get?_putAll, hnone, Option.or_none, Headers.last?_append,
    hcredential, Headers.last?_append, last?_optional, Headers.last?_cons, Headers.last?_cons,
    last?_optional]
  congr 1
  -- a name is that of one of the four headers at most
  have apart : ∀ {a b : String}, Text.sameName n a = true → Text.sameName a b = false →
      Text.sameName n b = false := fun h hab => by rw [Headers.sameName_congr h, hab]
  simp only [ownHeader?, Headers.sameName_comm _ n]
  by_cases ha : Text.sameName n "Authorization" = true
  · simp [ha, apart ha (b := "Cookie") (by decide), apart ha (b := "Accept") (by decide),
      apart ha (b := "Content-Type") (by decide)]
  · by_cases hc : Text.sameName n "Cookie" = true
    · simp [ha, hc, apart hc (b := "Accept") (by decide),
        apart hc (b := "Content-Type") (by decide)]
    · by_cases ht : Text.sameName n "Accept" = true
      · simp [ha, hc, ht]
      · simp [ha, hc, ht]

end Client
end RestShell
