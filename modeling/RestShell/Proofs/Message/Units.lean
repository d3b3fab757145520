import RestShell.Message.Measure
import RestShell.Proofs.Decimal.Rounding
import RestShell.Proofs.Json.Numbers

/-! Durations and sizes in their units. The text of a duration reads as one amount only, and this
tells the duration; the unit is chosen before the amount is rounded, so that an amount just below
the next unit can be rounded up to it. Main statement: which durations and sizes these are. -/

namespace RestShell

namespace Elapsed

/-- A duration as it is shown. -/
inductive Reading where
  | milliseconds (n : Nat)
  | seconds (hundredths : Nat)
  | minutes (m s : Nat)
  | hours (h m : Nat)
deriving DecidableEq

namespace Reading

def text : Reading → String
  | .milliseconds n => toString n ++ " ms"
  | .seconds c => .ofList (Places.chars 2 c) ++ " s"
  | .minutes m s => toString m ++ "m " ++ toString s ++ "s"
  | .hours h m => toString h ++ "h " ++ toString m ++ "m"

/-- No number in it makes one of the next unit. -/
def InUnit : Reading → Prop
  | .milliseconds n => n < 1000
  | .seconds c => c < 6000
  | .minutes m s => m < 60 ∧ s < 60
  | .hours _ m => m < 60

/-- It stands for a number of milliseconds: exactly, to the nearest hundredth of a second, or
without what is less than one of the smaller unit. -/
def Tells : Reading → Nat → Prop
  | .milliseconds n, ms => ms = n
  | .seconds c, ms => 10 * c ≤ ms + 5 ∧ ms ≤ 10 * c + 5
  | .minutes m s, ms => 60000 * m + 1000 * s ≤ ms ∧ ms < 60000 * m + 1000 * s + 1000
  | .hours h m, ms => 3600000 * h + 60000 * m ≤ ms ∧ ms < 3600000 * h + 60000 * m + 60000

/-- The number that the text begins with. -/
def lead : Reading → Nat
  | .milliseconds n => n
  | .seconds c => c / 100
  | .minutes m _ => m
  | .hours h _ => h

/-- What follows that number. -/
def tail : Reading → List Char
  | .milliseconds _ => [' ', 'm', 's']
  | .seconds c =>
    let behind := Nat.toDigits 10 (c % 100)
    '.' :: (List.replicate (2 - behind.length) '0' ++ behind ++ [' ', 's'])
  | .minutes _ s => 'm' :: ' ' :: (Nat.toDigits 10 s ++ ['s'])
  | .hours _ m => 'h' :: ' ' :: (Nat.toDigits 10 m ++ ['m'])

theorem toList_text (r : Reading) : r.text.toList = Nat.toDigits 10 r.lead ++ r.tail := by
  cases r with
  | milliseconds n => simp [text, lead, tail]
  | seconds c => simp [text, lead, tail, Places.chars]
  | minutes m s => simp [text, lead, tail]
  | hours h m => simp [text, lead, tail]

theorem noDigit_tail (r : Reading) : Json.NoDigit r.tail := by
  cases r <;> simp [Json.NoDigit, tail, Json.isDigit]

theorem digits_cancel {a b : Nat} {x y : List Char} (hx : Json.NoDigit x) (hy : Json.NoDigit y)
    (h : Nat.toDigits 10 a ++ x = Nat.toDigits 10 b ++ y) : a = b ∧ x = y := by
  have hdigits (n : Nat) : ∀ c ∈ Nat.toDigits 10 n, Json.isDigit c = true :=
    fun c => Json.isDigit_of_mem_toDigits
  have hfront := congrArg (List.takeWhile Json.isDigit) h
  have hback := congrArg (List.dropWhile Json.isDigit) h
  rw [Json.takeWhile_digits (hdigits a) hx, Json.takeWhile_digits (hdigits b) hy] at hfront
  rw [Json.dropWhile_digits (hdigits a) hx, Json.dropWhile_digits (hdigits b) hy] at hback
  have hvalue := congrArg (fun cs => Nat.ofDigitChars 10 cs 0) hfront
  exact ⟨by simpa using hvalue, hback⟩

theorem ofDigitChars_padded (k n : Nat) :
    Nat.ofDigitChars 10 (List.replicate k '0' ++ Nat.toDigits 10 n) 0 = n := by
  rw [Nat.ofDigitChars_append, Nat.ofDigitChars_replicate_zero, Nat.mul_zero,
    Nat.ofDigitChars_ten_toDigits]

/-- A text is that of one amount only. -/
theorem text_injective {r r' : Reading} (h : r.text = r'.text) : r = r' := by
  have hlist := congrArg String.toList h
  rw [toList_text, toList_text] at hlist
  obtain ⟨hlead, htail⟩ := digits_cancel r.noDigit_tail r'.noDigit_tail hlist
  cases r with
  | milliseconds n =>
    cases r' with
    | milliseconds n' => exact congrArg milliseconds hlead
    | _ => simp [tail] at htail
  | seconds c =>
    cases r' with
    | seconds c' =>
      have hbehind : c % 100 = c' % 100 := by
        have hchars := List.append_cancel_right (List.cons.inj htail).2
        have hvalue := congrArg (fun cs => Nat.ofDigitChars 10 cs 0) hchars
        simpa only [ofDigitChars_padded] using hvalue
      have hwhole : c / 100 = c' / 100 := hlead
      exact congrArg seconds (by omega)
    | _ => simp [tail] at htail
  | minutes m s =>
    cases r' with
    | minutes m' s' =>
      have hs := digits_cancel (by simp [Json.NoDigit, Json.isDigit])
        (by simp [Json.NoDigit, Json.isDigit]) (List.cons.inj (List.cons.inj htail).2).2
      exact congrArg₂ minutes hlead hs.1
    | _ => simp [tail] at htail
  | hours h m =>
    cases r' with
    | hours h' m' =>
      have hm := digits_cancel (by simp [Json.NoDigit, Json.isDigit])
        (by simp [Json.NoDigit, Json.isDigit]) (List.cons.inj (List.cons.inj htail).2).2
      exact congrArg₂ hours hlead hm.1
    | _ => simp [tail] at htail

end Reading

/-- The amount that a duration is shown as. -/
def reading (e : Elapsed) : Reading :=
  let ms := e.milliseconds
  if ms < 1000 then .milliseconds ms
  else if ms < 60000 then .seconds (Places.units 2 (.div (.ofNat ms) (.ofNat 1000)))
  else if ms < 3600000 then .minutes (ms / 60000) (ms % 60000 / 1000)
  else .hours (ms / 3600000) (ms % 3600000 / 60000)

theorem text_reading (e : Elapsed) : e.reading.text = e.text := by
  unfold reading text
  dsimp only
  split_ifs <;> rfl

variable {ms : Nat}

/-- Seconds are rounded to the nearest hundredth. -/
theorem seconds_nearest (h : ms < 60000) :
    (Reading.seconds (Places.units 2 (.div (.ofNat ms) (.ofNat 1000)))).Tells ms := by
  have hms : (Binary64.ofNat ms).magnitude = ms := Binary64.magnitude_ofNat (by omega)
  have hthousand : (Binary64.ofNat 1000).magnitude = 1000 := by
    exact_mod_cast Binary64.magnitude_ofNat (n := 1000) (by decide)
  have hlt : (ms : ℚ) < 60000 := by exact_mod_cast h
  have hquotient := Binary64.abs_magnitude_div_sub_le (x := .ofNat ms) (y := .ofNat 1000) (p := 6)
    (by rw [hthousand]; norm_num) (by decide) (by decide)
    (by rw [hms, hthousand]; norm_num; linarith)
  have hunits := Places.abs_units_sub_le 2 (.div (.ofNat ms) (.ofNat 1000))
  generalize Places.units 2 (.div (.ofNat ms) (.ofNat 1000)) = c at hunits ⊢
  rw [hms, hthousand] at hquotient
  norm_num at hquotient hunits
  rw [abs_le] at hquotient hunits
  have hlow : ((10 * c : Nat) : ℚ) < (ms + 6 : Nat) := by
    push_cast
    linarith [hquotient.2, hunits.2]
  have hhigh : (ms : ℚ) < (10 * c + 6 : Nat) := by
    push_cast
    linarith [hquotient.1, hunits.1]
  have hlow' : 10 * c < ms + 6 := by exact_mod_cast hlow
  have hhigh' : ms < 10 * c + 6 := by exact_mod_cast hhigh
  exact ⟨by omega, by omega⟩

theorem reading_tells (e : Elapsed) : e.reading.Tells e.milliseconds := by
  unfold reading
  dsimp only
  split_ifs with hsecond hminute hhour
  · rfl
  · exact seconds_nearest hminute
  · exact ⟨by omega, by omega⟩
  · exact ⟨by omega, by omega⟩

/-- Only the last hundredth before a minute is rounded up to it. -/
theorem reading_inUnit_iff (ms : Nat) :
    (reading ⟨ms⟩).InUnit ↔ ¬ (59996 ≤ ms ∧ ms < 60000) := by
  have htells := reading_tells ⟨ms⟩
  unfold reading at htells ⊢
  dsimp only at htells ⊢
  split_ifs at htells ⊢ with hsecond hminute hhour
  · simp only [Reading.InUnit]
    omega
  · by_cases hedge : ms = 59995
    · subst hedge
      have hunits : Places.units 2 (.div (.ofNat 59995) (.ofNat 1000)) = 5999 := by decide +kernel
      rw [hunits]
      simp [Reading.InUnit]
    · simp only [Reading.InUnit, Reading.Tells] at htells ⊢
      omega
  · simp only [Reading.InUnit]
    omega
  · simp only [Reading.InUnit]
    omega

end Elapsed

namespace ByteSize
open Binary64

variable {x : Binary64} {n j : Nat}

theorem magnitude_kilo : (ofNat 1024).magnitude = 1024 := by
  exact_mod_cast magnitude_ofNat (n := 1024) (by decide)

theorem magnitude_hundred : (ofNat 100).magnitude = 100 := by
  exact_mod_cast magnitude_ofNat (n := 100) (by decide)

section Scale
variable (unit greater : String) (more : List String)

theorem scale_of_lt (h : x.magnitude < 1024) : scale x unit more = (x, unit) := by
  cases more with
  | nil => rfl
  | cons greater more => rw [scale, if_pos ((magnitude_lt_iff x 1024).1 (by exact_mod_cast h))]

theorem scale_of_le (h : 1024 ≤ x.magnitude) :
    scale x unit (greater :: more) = scale (.div x (.ofNat 1024)) greater more := by
  rw [scale, if_neg fun hlt => not_lt.2 h (by exact_mod_cast (magnitude_lt_iff x 1024).2 hlt)]

end Scale

theorem div_kilo_pow (n j : Nat) : (n : ℚ) / 1024 ^ j = n * 2 ^ (-(10 * j : Nat) : Int) := by
  rw [zpow_neg, zpow_natCast, pow_mul, div_eq_mul_inv]
  norm_num

/-- Going to a greater unit is exact. -/
theorem magnitude_scaled (hn : n < 2 ^ 53) (hj : j ≤ 100) (h : x.magnitude = n / 1024 ^ j) :
    (div x (.ofNat 1024)).magnitude = n / 1024 ^ (j + 1) := by
  have hexact : x.magnitude / (ofNat 1024).magnitude = n * 2 ^ (-(10 * (j + 1) : Nat) : Int) := by
    rw [h, magnitude_kilo, div_div, ← pow_succ, div_kilo_pow]
  rw [magnitude_div_of_eq (by rw [magnitude_kilo]; norm_num) hn (by omega) (by omega) hexact,
    hexact, div_kilo_pow]

theorem magnitude_lt_kilo_iff (h : x.magnitude = n / 1024 ^ j) :
    x.magnitude < 1024 ↔ n < 1024 ^ (j + 1) := by
  rw [h, div_lt_iff₀ (by positivity), ← pow_succ']
  norm_cast

/-- Hundredths reach 1024 just when there are as many as that. -/
theorem hundredths_lt_iff {k : Nat} (hk : k ≤ 102400) :
    (div (.ofNat k) (.ofNat 100)).magnitude < 1024 ↔ k < 102400 := by
  have hmagnitude : (ofNat k).magnitude = k := magnitude_ofNat (by omega)
  have hne : (ofNat 100).magnitude ≠ 0 := by rw [magnitude_hundred]; norm_num
  have hquotient : (ofNat k).magnitude / (ofNat 100).magnitude = k / 100 := by
    rw [hmagnitude, magnitude_hundred]
  rcases Nat.lt_or_eq_of_le hk with hlt | rfl
  · refine iff_of_true ?_ hlt
    have hbelow : (k : ℚ) ≤ 102399 := by exact_mod_cast Nat.le_of_lt_succ hlt
    have herror := abs_magnitude_div_sub_le (p := 10) hne (by decide) (by decide)
      (by rw [hquotient]; norm_num; linarith)
    rw [hquotient] at herror
    norm_num at herror
    linarith [(abs_le.1 herror).2]
  · refine iff_of_false ?_ (lt_irrefl _)
    have hexact :
        (ofNat 102400).magnitude / (ofNat 100).magnitude = (1 : Nat) * 2 ^ (10 : Int) := by
      rw [hquotient]
      norm_num
    rw [magnitude_div_of_eq hne (by decide) (by decide) (by decide) hexact, hexact]
    norm_num

theorem magnitude_mul_hundred (hn : n * 100 < 2 ^ 53) (hj : j ≤ 100)
    (h : x.magnitude = n / 1024 ^ j) :
    (mul x (.ofNat 100)).magnitude = x.magnitude * 100 := by
  have hexact : x.magnitude * (ofNat 100).magnitude =
      (n * 100 : Nat) * 2 ^ (-(10 * j : Nat) : Int) := by
    rw [h, magnitude_hundred, ← div_kilo_pow]
    push_cast
    ring
  rw [magnitude_mul_of_eq hn (by omega) (by omega) hexact, magnitude_hundred]

/-- What is more than half a hundredth below 1024. -/
theorem hundredths_add_half_lt_iff (h : x.magnitude = n / 1024 ^ j) :
    x.magnitude * 100 + 1 / 2 < 102400 ↔ 200 * n < 204799 * 1024 ^ j := by
  have hcross : n / 1024 ^ j < (204799 / 200 : ℚ) ↔ (200 * n : ℚ) < 204799 * 1024 ^ j := by
    rw [div_lt_div_iff₀ (by positivity) (by norm_num), mul_comm (n : ℚ)]
  have hdouble : x.magnitude * 100 + 1 / 2 < 102400 ↔ x.magnitude < 204799 / 200 := by
    constructor <;> intro <;> linarith
  rw [hdouble, h, hcross]
  norm_cast

/-- An amount below 1024 stays below when it is rounded, unless it is within half a hundredth. -/
theorem round_lt_kilo_iff (hn : n * 100 < 2 ^ 53) (hj : j ≤ 100) (h : x.magnitude = n / 1024 ^ j)
    (hlt : n < 1024 ^ (j + 1)) :
    (round x).magnitude < 1024 ↔ 200 * n < 204799 * 1024 ^ j := by
  have hround (k : Nat) : k ≤ roundUp (mul x (.ofNat 100)).ratio.1 (mul x (.ofNat 100)).ratio.2 ↔
      (k : ℚ) ≤ x.magnitude * 100 + 1 / 2 := by
    rw [le_roundUp_iff _ _ (ratio_snd_pos _), ← magnitude_mul_hundred hn hj h]
    rfl
  have hbelow : x.magnitude < 1024 := (magnitude_lt_kilo_iff h).2 hlt
  unfold round
  dsimp only
  generalize roundUp (mul x (.ofNat 100)).ratio.1 (mul x (.ofNat 100)).ratio.2 = c at hround
  have hle : c ≤ 102400 := by
    by_contra hover
    have hreach := (hround 102401).1 (by omega)
    norm_num at hreach
    linarith
  rw [hundredths_lt_iff hle, ← hundredths_add_half_lt_iff h, ← not_le, ← not_le, hround 102400]
  norm_num

theorem amount_ofBytes {y : Binary64} {unit : String}
    (h : scale (.ofNat n) "B" ["KB", "MB", "GB"] = (y, unit)) :
    (ofBytes n).amount = round y ∧ (ofBytes n).unit = unit := by
  rw [ofBytes, h]
  exact ⟨rfl, rfl⟩

/-- The unit where scaling stops, and when the amount stays below 1024 in it. -/
theorem ofBytes_of_scale {unit : String} {more : List String} (hsmall : n < 1024 ^ 3) (hj : j ≤ 100)
    (h : x.magnitude = n / 1024 ^ j) (hlt : n < 1024 ^ (j + 1))
    (hscale : scale (.ofNat n) "B" ["KB", "MB", "GB"] = scale x unit more) :
    (ofBytes n).unit = unit ∧
      ((ofBytes n).amount.magnitude < 1024 ↔ 200 * n < 204799 * 1024 ^ j) := by
  have hstop := scale_of_lt unit more ((magnitude_lt_kilo_iff h).2 hlt)
  obtain ⟨hamount, hunit⟩ := amount_ofBytes (hscale.trans hstop)
  exact ⟨hunit, by rw [hamount, round_lt_kilo_iff (by omega) hj h hlt]⟩

/-- Only sizes within half a hundredth of the next unit are rounded up to it. -/
theorem ofBytes_inUnit_iff (hn : n < 2 ^ 53) :
    (ofBytes n).amount.magnitude < 1024 ∨ (ofBytes n).unit = "GB" ↔
      ¬ (1048571 ≤ n ∧ n < 1024 ^ 2) ∧ ¬ (1073736582 ≤ n ∧ n < 1024 ^ 3) := by
  have hbytes : (ofNat n).magnitude = n / 1024 ^ 0 := by rw [magnitude_ofNat hn]; simp
  have hkilo := magnitude_scaled hn (by decide) hbytes
  have hmega := magnitude_scaled hn (by decide) hkilo
  -- the sizes of each unit in turn; in the last one there is nothing to keep below
  by_cases hB : n < 1024 ^ 1
  · obtain ⟨hunit, hamount⟩ := ofBytes_of_scale (by omega) (by decide) hbytes hB rfl
    rw [hamount, hunit]
    simp only [String.reduceEq, or_false]
    omega
  have hscaleB := scale_of_le "B" "KB" ["MB", "GB"]
    (not_lt.1 (mt (magnitude_lt_kilo_iff hbytes).1 hB))
  by_cases hKB : n < 1024 ^ 2
  · obtain ⟨hunit, hamount⟩ := ofBytes_of_scale (by omega) (by decide) hkilo hKB hscaleB
    rw [hamount, hunit]
    simp only [String.reduceEq, or_false]
    omega
  have hscaleKB := hscaleB.trans <| scale_of_le "KB" "MB" ["GB"]
    (not_lt.1 (mt (magnitude_lt_kilo_iff hkilo).1 hKB))
  by_cases hMB : n < 1024 ^ 3
  · obtain ⟨hunit, hamount⟩ := ofBytes_of_scale hMB (by decide) hmega hMB hscaleKB
    rw [hamount, hunit]
    simp only [String.reduceEq, or_false]
    omega
  have hscaleMB := hscaleKB.trans <| scale_of_le "MB" "GB" []
    (not_lt.1 (mt (magnitude_lt_kilo_iff hmega).1 hMB))
  have hunit := (amount_ofBytes hscaleMB).2
  exact iff_of_true (.inr hunit) ⟨by omega, by omega⟩

end ByteSize

/-- A duration reads as one amount only, and this tells it. It is one of its unit except in the last
four milliseconds of a minute, and the amount of a size is below 1024 except in the last half
hundredth of a kilobyte before a megabyte and of a megabyte before a gigabyte. -/
theorem shown_in_unit_iff (ms : Nat) {n : Nat} (hn : n < 2 ^ 53) :
    (∃ r : Elapsed.Reading, (∀ r', (Elapsed.mk ms).text = r'.text ↔ r' = r) ∧ r.Tells ms ∧
      (r.InUnit ↔ ¬ (59996 ≤ ms ∧ ms < 60000))) ∧
    ((ByteSize.ofBytes n).amount.magnitude < 1024 ∨ (ByteSize.ofBytes n).unit = "GB" ↔
      ¬ (1048571 ≤ n ∧ n < 1024 ^ 2) ∧ ¬ (1073736582 ≤ n ∧ n < 1024 ^ 3)) := by
  refine ⟨⟨Elapsed.reading ⟨ms⟩, fun r' => ⟨fun htext => ?_, fun hr' => ?_⟩,
    Elapsed.reading_tells ⟨ms⟩, Elapsed.reading_inUnit_iff ms⟩, ByteSize.ofBytes_inUnit_iff hn⟩
  · rw [← Elapsed.text_reading] at htext
    exact (Elapsed.Reading.text_injective htext).symm
  · rw [hr', Elapsed.text_reading]

/-- The last duration and the last size below it that are shown right. -/
theorem shown_in_unit_last :
    1048570 < 2 ^ 53 ∧ (∃ r : Elapsed.Reading, (Elapsed.mk 59995).text = r.text ∧ r.InUnit) ∧
      ((ByteSize.ofBytes 1048570).amount.magnitude < 1024 ∨
        (ByteSize.ofBytes 1048570).unit = "GB") := by
  obtain ⟨⟨r, htext, -, hunit⟩, hbytes⟩ :=
    shown_in_unit_iff 59995 (n := 1048570) (by decide)
  exact ⟨by decide, ⟨r, (htext r).2 rfl, hunit.2 (by decide)⟩, hbytes.2 (by decide)⟩

/-- A millisecond short of a minute is shown as sixty seconds, and a byte short of a megabyte as
1024 kilobytes. -/
theorem shown_past_unit :
    (Elapsed.mk 59999).text = "60.00 s" ∧
    (∀ r : Elapsed.Reading, (Elapsed.mk 59999).text = r.text → ¬ r.InUnit) ∧
    (ByteSize.ofBytes 1048575).text = "1024 KB" ∧ (ByteSize.ofBytes 1048575).unit = "KB" ∧
    ¬ (ByteSize.ofBytes 1048575).amount.magnitude < 1024 := by
  refine ⟨by decide +kernel, fun r htext hunit => ?_, by decide +kernel, by decide +kernel, ?_⟩
  · rw [← Elapsed.text_reading] at htext
    rw [← Elapsed.Reading.text_injective htext] at hunit
    exact (Elapsed.reading_inUnit_iff 59999).1 hunit (by decide)
  · intro hlt
    exact absurd ((ByteSize.ofBytes_inUnit_iff (by decide)).1 (.inl hlt)).1 (by decide)

end RestShell
