import RestShell.Proofs.Line.Clauses
import RestShell.Proofs.Line.Styling
import RestShell.Session.Basic

/-! Options in layers. Of what the clauses of a line tell of one option the last counts, and where
they tell nothing the profile does, or else what was there before. The options so reached are the
defaults under which the same words are read again, and then they are read into the same
arguments. -/

namespace RestShell

namespace Clause
variable {β : Type}

/-- What the last of some clauses tells that tells anything. -/
def lastTold (tell : Clause → Option β) (said : List Clause) : Option β :=
  (said.filterMap tell).getLast?

/-- The value that a clause gives a flag. -/
def value? (flag : ValueFlag) : Clause → Option String
  | .valued f value => if f = flag then some value else none
  | _ => none

/-- A switch turns something on or off. -/
def turn? (s : Switch) (on : Bool) (c : Clause) : Option Bool :=
  if c = .switch s then some on else none

/-- Whether a clause asks for colours or for none. -/
def color? : Clause → Option Bool
  | .switch .color => some true
  | .switch .noColor => some false
  | _ => none

theorem lastTold_concat (tell : Clause → Option β) (done : List Clause) (c : Clause) :
    lastTold tell (done ++ [c]) = (tell c).or (lastTold tell done) := by
  rw [lastTold, List.filterMap_append, List.getLast?_append]
  cases hc : tell c <;> simp [hc, lastTold]

theorem lastTold_turn (s : Switch) (on : Bool) (said : List Clause) :
    lastTold (turn? s on) said = if .switch s ∈ said then some on else none := by
  induction said using List.reverseRecOn with
  | nil => rfl
  | append_singleton done c ih =>
    rw [lastTold_concat, ih, turn?]
    by_cases hc : c = .switch s
    · simp [hc]
    · simp [hc, Ne.symm hc]

end Clause

namespace Arguments
variable {data : Assoc Json.Value} {a b : Arguments} {color formatted : Bool}
  {said : List Clause} {words : List String}

/-- What one clause does to the options: it gives a value, turns a switch or leaves them. -/
structure Turned (a : Arguments) (c : Clause) (b : Arguments) : Prop where
  url : b.url = (c.value? .url).or a.url
  credential : b.credential = (c.value? .basic).or a.credential
  color : b.color = c.color?.getD a.color
  formatted : b.formatted = (c.turn? .raw false).getD a.formatted
  insecure : b.insecure = (c.turn? .insecure true).getD a.insecure
  shell : b.shell = (c.turn? .shell true).getD a.shell
  verbose : b.verbose = (c.turn? .verbose true).getD a.verbose
  invert : b.invert = (c.turn? .invert true).getD a.invert

theorem turned_of_follows {c : Clause} (h : Follows data a c b) : Turned a c b := by
  cases h with
  | switch s => cases s <;> constructor <;> rfl
  | _ => constructor <;> rfl

/-- What a clause tells of a field stands there until another one tells something else. -/
theorem followAll_last {β : Type} (field : Arguments → Option β) (tell : Clause → Option β)
    (hstep : ∀ {a c b}, Follows data a c b → field b = (tell c).or (field a))
    (h : followAll data a said = .ok b) : field b = (Clause.lastTold tell said).or (field a) := by
  refine followAll_invariant (P := fun said b => field b = (Clause.lastTold tell said).or (field a))
    ?_ rfl h
  intro done c x y _ hx hf
  rw [hstep hf, hx, Clause.lastTold_concat, Option.or_assoc]

/-- The same of a field that is there from the start. -/
theorem followAll_lastD {β : Type} (field : Arguments → β) (tell : Clause → Option β)
    (hstep : ∀ {a c b}, Follows data a c b → field b = (tell c).getD (field a))
    (h : followAll data a said = .ok b) :
    field b = (Clause.lastTold tell said).getD (field a) := by
  have hlast := followAll_last (some ∘ field) tell (fun {a c b} hf => ?_) h
  · cases htold : Clause.lastTold tell said <;> simpa [htold] using hlast
  · rw [Function.comp_apply, hstep hf]
    cases tell c <;> rfl

/-- A switch that turns a boolean on or off does so wherever it stands. -/
theorem followAll_switch (field : Arguments → Bool) (s : Switch) (on : Bool)
    (hstep : ∀ {a c b}, Follows data a c b → field b = (Clause.turn? s on c).getD (field a))
    (h : followAll data a said = .ok b) :
    field b = if .switch s ∈ said then on else field a := by
  rw [followAll_lastD field _ hstep h, Clause.lastTold_turn]
  split <;> rfl

/-- What clauses say of the options, under the colour and the layout that they start from. -/
structure Told (color formatted : Bool) (said : List Clause) (a : Arguments) : Prop where
  url : a.url = (Clause.valuesOf .url said).getLast?
  credential : a.credential = (Clause.valuesOf .basic said).getLast?
  color : a.color = (Clause.lastTold Clause.color? said).getD color
  formatted : a.formatted = if .switch .raw ∈ said then false else formatted
  insecure : a.insecure = if .switch .insecure ∈ said then true else false
  shell : a.shell = if .switch .shell ∈ said then true else false
  verbose : a.verbose = if .switch .verbose ∈ said then true else false
  invert : a.invert = if .switch .invert ∈ said then true else false

theorem told_of_followAll (h : followAll data { color, formatted } said = .ok a) :
    Told color formatted said a where
  url := (followAll_last url (Clause.value? .url) (fun hf => (turned_of_follows hf).url) h).trans
    Option.or_none
  credential := (followAll_last credential (Clause.value? .basic)
    (fun hf => (turned_of_follows hf).credential) h).trans Option.or_none
  color := followAll_lastD Arguments.color Clause.color?
    (fun hf => (turned_of_follows hf).color) h
  formatted := followAll_switch Arguments.formatted .raw false
    (fun hf => (turned_of_follows hf).formatted) h
  insecure := followAll_switch insecure .insecure true
    (fun hf => (turned_of_follows hf).insecure) h
  shell := followAll_switch shell .shell true (fun hf => (turned_of_follows hf).shell) h
  verbose := followAll_switch verbose .verbose true (fun hf => (turned_of_follows hf).verbose) h
  invert := followAll_switch invert .invert true (fun hf => (turned_of_follows hf).invert) h

/-- Whatever the defaults, words are refused for the same reason or are read. -/
theorem read_styled (data : Assoc Json.Value) (color formatted color' formatted' : Bool)
    (words : List String) :
    Matches Restyled (read data color formatted words) (read data color' formatted' words) :=
  scan_dressed (Dressed.refl _) ⟨color', formatted', false, false, rfl⟩

/-- Under the colour and the layout that words have led to they are read as before. -/
theorem read_again (h : read data color formatted words = .ok a) :
    read data a.color a.formatted words = .ok a := by
  obtain ⟨said, hline, hfollow⟩ := read_eq_ok_iff.1 h
  have hfirst := told_of_followAll hfollow
  rcases (read_styled data color formatted a.color a.formatted words).exists_or with
    ⟨a', b, ha, hb, hab⟩ | ⟨e, he, -⟩
  · obtain rfl := Except.ok.inj (h.symm.trans ha)
    obtain ⟨said', hline', hfollow'⟩ := read_eq_ok_iff.1 hb
    obtain rfl := Option.some.inj (hline.symm.trans hline')
    have hsecond := told_of_followAll hfollow'
    have hcolor : b.color = a.color := by
      rw [hsecond.color, hfirst.color]
      cases Clause.lastTold Clause.color? said <;> rfl
    have hformatted : b.formatted = a.formatted := by
      rw [hsecond.formatted, hfirst.formatted]
      split <;> rfl
    have hinvert : b.invert = a.invert := hsecond.invert.trans hfirst.invert.symm
    have hverbose : b.verbose = a.verbose := hsecond.verbose.trans hfirst.verbose.symm
    obtain ⟨_, _, _, _, rfl⟩ := hab
    cases hcolor
    cases hformatted
    cases hinvert
    cases hverbose
    exact hb
  · rw [h] at he
    cases he

end Arguments

namespace Options

/-- Reads the words of the command line into options that stay as they are when the words cannot
be read. -/
def takeWords (o : Options) (words : List String) : Except LineError Arguments × Options :=
  match o.readWords words with
  | .ok (a, next) => (.ok a, next)
  | .error e => (.error e, o)

/-- Options with three layers: what the clauses of a line say, under that a profile, and under
both what was there before. -/
structure Layered (o : Options) (home : String) (p : Profile) (said : List Clause)
    (next : Options) : Prop where
  url : next.url = ((Clause.valuesOf .url said).getLast?.or p.url).getD o.url
  credential : next.credential =
    ((Clause.valuesOf .basic said).getLast?.or p.credential).or o.credential
  color : next.color = ((Clause.lastTold Clause.color? said).or p.color).getD o.color
  insecure : next.insecure = true ↔ p.insecure.getD o.insecure = true ∨ .switch .insecure ∈ said
  shell : next.shell = true ↔ o.shell = true ∨ .switch .shell ∈ said
  verbose : next.verbose = true ↔ o.verbose = true ∨ .switch .verbose ∈ said
  invert : next.invert = true ↔ o.invert = true ∨ .switch .invert ∈ said
  formatted : next.formatted = false ↔ o.formatted = false ∨ .switch .raw ∈ said
  histfile : next.histfile = (p.histfile.map (expandHome home)).getD o.histfile

variable {o : Options} {home : String} {p : Profile} {said : List Clause} {a : Arguments}

theorem layered_of_told
    (h : Arguments.Told (o.withProfile home p).color (o.withProfile home p).formatted said a) :
    Layered o home p said ((o.withProfile home p).withArguments a) where
  url := by
    rw [withArguments, h.url]
    cases (Clause.valuesOf .url said).getLast? <;> rfl
  credential := by
    rw [withArguments, h.credential, Option.or_assoc]
    simp [withProfile, Option.orElse_eq_or]
  color := by
    rw [withArguments, h.color]
    cases Clause.lastTold Clause.color? said <;> rfl
  insecure := by simp [withArguments, withProfile, h.insecure]
  shell := by simp [withArguments, withProfile, h.shell]
  verbose := by simp [withArguments, withProfile, h.verbose]
  invert := by simp [withArguments, withProfile, h.invert]
  formatted := by
    simp only [withArguments, withProfile, h.formatted]
    split <;> simp [*]
  histfile := rfl

/-- Words that cannot be read change no option. Others are laid over the profile, and it over the
options before: where a value is given the last one counts, and a switch wherever it stands. In a
session with these options, and with nothing captured, the words are read into the same arguments
again. -/
theorem takeWords_layered (o : Options) (home : String) (p : Profile) (words : List String)
    (color formatted : Bool) :
    let base := o.withProfile home p
    (∀ e, Arguments.read [] color formatted words = .error e →
      base.takeWords words = (.error e, base)) ∧
    ∀ b, Arguments.read [] color formatted words = .ok b →
      ∃ a said next, base.takeWords words = (.ok a, next) ∧ Clause.ofLine? words = some said ∧
        Layered o home p said next ∧
        ∀ s : Session, s.options = next → s.data = [] → s.arguments words = .ok a := by
  intro base
  have hstyled := Arguments.read_styled [] color formatted base.color base.formatted words
  constructor
  · intro e he
    rcases hstyled.exists_or with ⟨_, _, hb, -, -⟩ | ⟨e', he', hbase⟩
    · rw [he] at hb
      cases hb
    · obtain rfl := Except.error.inj (he.symm.trans he')
      rw [takeWords, readWords, hbase]
      rfl
  · intro b hb
    rcases hstyled.exists_or with ⟨_, a, -, ha, -⟩ | ⟨e, he, -⟩
    · obtain ⟨said, hline, hfollow⟩ := Arguments.read_eq_ok_iff.1 ha
      refine ⟨a, said, base.withArguments a, ?_, hline,
        layered_of_told (Arguments.told_of_followAll hfollow), ?_⟩
      · rw [takeWords, readWords, ha]
        rfl
      · intro s hoptions hdata
        rw [Session.arguments, hoptions, hdata]
        exact Arguments.read_again ha
    · rw [hb] at he
      cases he

end Options
end RestShell
