import Mathlib.Data.List.Basic
import Mathlib.Tactic.Ring
import Ch32v307.Lcd.Text

namespace Ch32v307.Lcd

/-! Numbers: the characters the loop draws, against the decimal digits. -/

def decimalChar (len blank : UInt8) (value t : Nat) : UInt8 :=
  let place := len.toNat - 1 - t
  if t + 1 < len.toNat ∧ value / 10 ^ place = 0 then blank
  else 0x30 + UInt8.ofNat (value / 10 ^ place % 10)

/-- The last `len` decimal digits, the leading zeros but the last place blank,
`size / 2` columns apart. -/
def decimalCalls (style : NumStyle) (num : UInt32) : List CharCall :=
  (List.range style.len.toNat).map fun t =>
    { x := style.x + UInt16.ofNat (t * (style.size.toNat / 2))
      y := style.y
      chr := decimalChar style.len style.blank
        (num.toNat % 10 ^ style.len.toNat) t
      size := style.size
      mode := style.mode
      color := style.color }

/-- Both functions draw the digits, and without bit 7 they draw the same. -/
structure ShowsDecimal (x y : UInt16) (num : UInt32) (len size mode : UInt8)
    (color : UInt16) : Prop where
  plain : lcdShowNum x y num len size color =
    some (decimalCalls ⟨x, y, len, size, 0x20, 0, color⟩ num)
  extended : lcdShowXnum x y num len size mode color =
    some (decimalCalls
      ⟨x, y, len, size, if mode &&& 0x80 ≠ 0 then 0x30 else 0x20,
        mode &&& 0x01, color⟩ num)
  same : lcdShowNum x y num len size color =
    lcdShowXnum x y num len size 0 color

/-- The numbers below this are shown right in `len` places. -/
def decimalReach (len : Nat) : Nat :=
  if len ≤ 10 then 4294967296
  else if len ≤ 11 then 1410065408
  else if len ≤ 14 then 1215752192
  else if len ≤ 28 then 276447232
  else if len ≤ 32 then 268435456
  else 0

/-! The powers of ten in 32 bits. -/

theorem lcdPowLoop_toNat (m : UInt8) (n : Nat) (result : UInt32) :
    (lcdPowLoop m n result).toNat = result.toNat * m.toNat ^ n % 4294967296 := by
  induction n generalizing result with
  | zero =>
      rw [lcdPowLoop, pow_zero, Nat.mul_one]
      exact (Nat.mod_eq_of_lt result.toNat_lt).symm
  | succ n ih =>
      rw [lcdPowLoop, ih, UInt32.toNat_mul, UInt8.toNat_toUInt32, Nat.pow_succ,
        Nat.mod_mul_mod]
      congr 1
      ring

/-- What the loop divides by at a place, counted from the last. -/
def placePower (place : Nat) : UInt32 := lcdPow 10 (UInt8.ofNat place)

theorem placePower_toNat {place : Nat} (byte : place < 256) :
    (placePower place).toNat = 10 ^ place % 4294967296 := by
  rw [placePower, lcdPow, lcdPowLoop_toNat, UInt8.toNat_ofNat_of_lt' byte]
  exact congrArg (· % 4294967296) (Nat.one_mul _)

theorem placePower_exact {place : Nat} (low : place < 10) :
    (placePower place).toNat = 10 ^ place := by
  rw [placePower_toNat (by omega)]
  refine Nat.mod_eq_of_lt ?_
  calc
    10 ^ place ≤ 10 ^ 9 := Nat.pow_le_pow_right (by decide) (by omega)
    _ < 4294967296 := by decide

theorem decimalReach_le {place len : Nat} (high : 10 ≤ place) (inside : place < len) :
    decimalReach len ≤ 10 ^ place % 4294967296 := by
  by_cases large : 32 < len
  · unfold decimalReach
    split_ifs
    all_goals omega
  · have table : ∀ place < 32, 10 ≤ place →
        decimalReach (place + 1) ≤ 10 ^ place % 4294967296 := by decide
    refine le_trans ?_ (table place (by omega) high)
    unfold decimalReach
    split_ifs
    all_goals omega

theorem placePower_pos {place len : Nat} {num : UInt32} (byte : len < 256)
    (inside : place < len) (fits : num.toNat < decimalReach len) :
    placePower place ≠ 0 := by
  intro zero
  have value := congrArg UInt32.toNat zero
  by_cases low : place < 10
  · rw [placePower_exact low] at value
    exact absurd value (pow_ne_zero _ (by decide))
  · have reach := decimalReach_le (by omega : 10 ≤ place) inside
    rw [placePower_toNat (by omega)] at value
    change _ = 0 at value
    omega

/-- The digit the loop reads at a place. -/
def placeDigit (num : UInt32) (place : Nat) : UInt8 :=
  (num / placePower place % 10).toUInt8

theorem placeDigit_toNat (num : UInt32) (place : Nat) :
    (placeDigit num place).toNat =
      num.toNat / (placePower place).toNat % 10 := by
  rw [placeDigit, UInt32.toNat_toUInt8, UInt32.toNat_mod, UInt32.toNat_div]
  change _ % 10 % 256 = _
  omega

theorem pow_high {num : UInt32} {place : Nat} (high : 10 ≤ place) :
    num.toNat < 10 ^ place := by
  have bound := num.toNat_lt
  calc
    num.toNat < 10 ^ 10 := by omega
    _ ≤ 10 ^ place := Nat.pow_le_pow_right (by decide) high

theorem placeDigit_exact {place len : Nat} {num : UInt32} (byte : len < 256)
    (inside : place < len) (fits : num.toNat < decimalReach len) :
    (placeDigit num place).toNat = num.toNat % 10 ^ len / 10 ^ place % 10 := by
  have kept : num.toNat % 10 ^ len / 10 ^ place % 10 =
      num.toNat / 10 ^ place % 10 := by
    obtain ⟨more, rfl⟩ := Nat.exists_eq_add_of_lt inside
    rw [add_assoc, pow_add, Nat.mod_mul_right_div_self, pow_succ',
      Nat.mod_mul_right_mod]
  rw [placeDigit_toNat, kept]
  by_cases low : place < 10
  · rw [placePower_exact low]
  · have reach := decimalReach_le (by omega : 10 ≤ place) inside
    rw [placePower_toNat (by omega), Nat.div_eq_of_lt (by omega),
      Nat.div_eq_of_lt (pow_high (by omega))]

/-! The loop. -/

section Loop

variable {style : NumStyle} {num : UInt32} {remaining t : Nat} {enshow : Bool}

theorem showDigits_zero (zero : placePower (style.len.toNat - t - 1) = 0) :
    style.showDigits num (remaining + 1) t enshow = none :=
  if_pos zero

theorem showDigits_blank (positive : placePower (style.len.toNat - t - 1) ≠ 0)
    (leading : ¬ enshow ∧ t < style.len.toNat - 1)
    (zero : placeDigit num (style.len.toNat - t - 1) = 0) :
    style.showDigits num (remaining + 1) t enshow =
      (style.showDigits num remaining (t + 1) enshow).map
        (style.call t style.blank :: ·) := by
  rw [NumStyle.showDigits]
  exact (if_neg positive).trans ((if_pos leading).trans (if_pos zero))

theorem showDigits_first (positive : placePower (style.len.toNat - t - 1) ≠ 0)
    (leading : ¬ enshow ∧ t < style.len.toNat - 1)
    (digit : placeDigit num (style.len.toNat - t - 1) ≠ 0) :
    style.showDigits num (remaining + 1) t enshow =
      (style.showDigits num remaining (t + 1) true).map
        (style.call t (placeDigit num (style.len.toNat - t - 1) + 0x30) :: ·) := by
  rw [NumStyle.showDigits]
  exact (if_neg positive).trans ((if_pos leading).trans (if_neg digit))

theorem showDigits_shown (positive : placePower (style.len.toNat - t - 1) ≠ 0)
    (shown : ¬ (¬ enshow ∧ t < style.len.toNat - 1)) :
    style.showDigits num (remaining + 1) t enshow =
      (style.showDigits num remaining (t + 1) enshow).map
        (style.call t (placeDigit num (style.len.toNat - t - 1) + 0x30) :: ·) := by
  rw [NumStyle.showDigits]
  exact (if_neg positive).trans (if_neg shown)

/-- A place whose digit is not 0 shows it, whatever came before. -/
theorem showDigits_step (num) (remaining) (enshow)
    (positive : placePower (style.len.toNat - t - 1) ≠ 0) :
    ∃ later chr, style.showDigits num (remaining + 1) t enshow =
        (style.showDigits num remaining (t + 1) later).map
          (style.call t chr :: ·) ∧
      (placeDigit num (style.len.toNat - t - 1) ≠ 0 →
        chr = placeDigit num (style.len.toNat - t - 1) + 0x30) := by
  by_cases leading : ¬ enshow ∧ t < style.len.toNat - 1
  · by_cases zero : placeDigit num (style.len.toNat - t - 1) = 0
    · exact ⟨_, _, showDigits_blank positive leading zero, absurd zero⟩
    · exact ⟨_, _, showDigits_first positive leading zero, fun _ => rfl⟩
  · exact ⟨_, _, showDigits_shown positive leading, fun _ => rfl⟩

theorem showDigits_at {calls : List CharCall} {place : Nat}
    (drawn : style.showDigits num remaining t enshow = some calls)
    (begun : t ≤ place) (inside : place < t + remaining)
    (digit : placeDigit num (style.len.toNat - place - 1) ≠ 0) :
    calls[place - t]? = some (style.call place
      (placeDigit num (style.len.toNat - place - 1) + 0x30)) := by
  induction remaining generalizing t enshow calls with
  | zero => omega
  | succ remaining ih =>
      by_cases zero : placePower (style.len.toNat - t - 1) = 0
      · rw [showDigits_zero zero] at drawn
        cases drawn
      · obtain ⟨later, chr, step, shown⟩ :=
          showDigits_step num remaining enshow zero
        rw [step, Option.map_eq_some_iff] at drawn
        obtain ⟨rest, drawn, rfl⟩ := drawn
        rcases Nat.eq_or_lt_of_le begun with rfl | after
        · rw [Nat.sub_self, List.getElem?_cons_zero, shown digit]
        · have place_eq : place - t = place - (t + 1) + 1 := by omega
          rw [place_eq, List.getElem?_cons_succ]
          exact ih drawn after (by omega)

/-- The loop passes every place, so a power that is 0 is divided by. -/
theorem showDigits_divides {place : Nat} (begun : t ≤ place)
    (inside : place < t + remaining)
    (zero : placePower (style.len.toNat - place - 1) = 0) :
    style.showDigits num remaining t enshow = none := by
  induction remaining generalizing t enshow with
  | zero => omega
  | succ remaining ih =>
      by_cases here : placePower (style.len.toNat - t - 1) = 0
      · exact showDigits_zero here
      · have later : t ≠ place := by
          rintro rfl
          exact here zero
        obtain ⟨_, _, step, -⟩ := showDigits_step num remaining enshow here
        rw [step, ih (by omega) (by omega)]
        rfl

theorem decimalChar_place {len blank digit : UInt8} {value place : Nat}
    (whole : t + 1 + place = len.toNat)
    (exact : digit.toNat = value / 10 ^ place % 10) :
    decimalChar len blank value t =
      if 0 < place ∧ value / 10 ^ place = 0 then blank else digit + 0x30 := by
  have place_eq : len.toNat - 1 - t = place := by omega
  have later : t + 1 < len.toNat ↔ 0 < place := by omega
  simp only [decimalChar, place_eq, later, ← exact, UInt8.ofNat_toNat,
    UInt8.add_comm digit]

/-- Before each place the flag says whether a digit above it is not 0. -/
theorem showDigits_decimal (fits : num.toNat < decimalReach style.len.toNat)
    (whole : t + remaining = style.len.toNat)
    (flag : 0 < remaining → (enshow = true ↔
      num.toNat % 10 ^ style.len.toNat / 10 ^ remaining ≠ 0)) :
    style.showDigits num remaining t enshow =
      some ((List.range' t remaining).map fun t => style.call t
        (decimalChar style.len style.blank
          (num.toNat % 10 ^ style.len.toNat) t)) := by
  induction remaining generalizing t enshow with
  | zero => rfl
  | succ remaining ih =>
      have byte := style.len.toNat_lt
      have place : style.len.toNat - t - 1 = remaining := by omega
      have positive : placePower (style.len.toNat - t - 1) ≠ 0 :=
        placePower_pos byte (by omega) fits
      have digit := placeDigit_exact byte (by omega : remaining < _) fits
      have above := flag (Nat.succ_pos _)
      rw [Nat.pow_succ, ← Nat.div_div_eq_div_mul] at above
      have last : t < style.len.toNat - 1 ↔ 0 < remaining := by omega
      rw [List.range'_succ, List.map_cons,
        decimalChar_place (by omega : t + 1 + remaining = _) digit]
      by_cases leading : ¬ enshow ∧ t < style.len.toNat - 1
      · have none := mt above.mpr leading.1
        rw [not_not] at none
        by_cases zero : placeDigit num remaining = 0
        · have value : num.toNat % 10 ^ style.len.toNat / 10 ^ remaining = 0 := by
            rw [zero] at digit
            change 0 = _ at digit
            omega
          rw [showDigits_blank positive leading (by rwa [place]),
            if_pos ⟨last.mp leading.2, value⟩, ih (by omega)]
          · rfl
          · intro _
            simpa [leading.1] using value
        · have value : num.toNat % 10 ^ style.len.toNat / 10 ^ remaining ≠ 0 := by
            intro value
            rw [value] at digit
            exact zero (UInt8.toNat_inj.mp digit)
          rw [showDigits_first positive leading (by rwa [place]), place,
            if_neg (fun blank => value blank.2), ih (by omega)]
          · rfl
          · intro _
            exact iff_of_true rfl value
      · rw [showDigits_shown positive leading, place]
        rw [not_and_or, not_not, last] at leading
        have value : 0 < remaining →
            num.toNat % 10 ^ style.len.toNat / 10 ^ remaining ≠ 0 := by
          intro more
          have begun := above.mp (leading.resolve_right (not_not.mpr more))
          omega
        rw [if_neg (fun blank => value blank.1 blank.2), ih (by omega)]
        · rfl
        · intro more
          exact iff_of_true (leading.resolve_right (not_not.mpr more)) (value more)

end Loop

section Shown

variable {style : NumStyle} {num : UInt32}

theorem decimalCalls_eq (style : NumStyle) (num : UInt32) :
    decimalCalls style num = (List.range style.len.toNat).map fun t =>
      style.call t (decimalChar style.len style.blank
        (num.toNat % 10 ^ style.len.toNat) t) := by
  refine List.map_congr_left fun t _ => ?_
  rw [NumStyle.call, Nat.mul_comm t]
  rfl

theorem showDigits_fits (fits : num.toNat < decimalReach style.len.toNat) :
    style.showDigits num style.len.toNat 0 false =
      some (decimalCalls style num) := by
  rw [showDigits_decimal fits (Nat.zero_add _), decimalCalls_eq,
    List.range_eq_range']
  intro _
  rw [Nat.div_eq_of_lt (Nat.mod_lt _ (Nat.pow_pos (by decide)))]
  exact iff_of_false Bool.false_ne_true (not_not.mpr rfl)

theorem placeDigit_wrapped {place power : Nat} (byte : place < 256)
    (wraps : 10 ^ place % 4294967296 = power) (reached : power ≤ num.toNat)
    (below : num.toNat < 10 * power) : placeDigit num place ≠ 0 := by
  intro zero
  have digit := placeDigit_toNat num place
  rw [zero, placePower_toNat byte, wraps] at digit
  change 0 = _ at digit
  have first : 1 ≤ num.toNat / power :=
    (Nat.one_le_div_iff (by omega)).mpr reached
  have small : num.toNat / power < 10 := Nat.div_lt_of_lt_mul (by omega)
  omega

/-- Beyond the reach some place above the tenth is not 0, or its power is. -/
theorem exists_wrong_place {len : Nat} (byte : len < 256)
    (large : decimalReach len ≤ num.toNat) :
    ∃ place, 10 ≤ place ∧ place < len ∧
      (placePower place = 0 ∨ placeDigit num place ≠ 0) := by
  have bound := num.toNat_lt
  by_cases divides : 32 < len
  · exact ⟨32, by decide, divides, Or.inl (by decide)⟩
  · -- the places where the least power so far gets smaller
    have wrong : (1410065408 ≤ num.toNat ∧ 10 < len) ∨
        (1215752192 ≤ num.toNat ∧ num.toNat < 1410065408 ∧ 11 < len) ∨
        (276447232 ≤ num.toNat ∧ num.toNat < 1215752192 ∧ 14 < len) ∨
        (268435456 ≤ num.toNat ∧ num.toNat < 276447232 ∧ 28 < len) := by
      unfold decimalReach at large
      split_ifs at large
      all_goals omega
    obtain ⟨reached, inside⟩ | ⟨reached, below, inside⟩ |
      ⟨reached, below, inside⟩ | ⟨reached, below, inside⟩ := wrong
    · exact ⟨10, by decide, inside,
        Or.inr (placeDigit_wrapped (by decide) (by decide) reached (by omega))⟩
    · exact ⟨11, by decide, inside,
        Or.inr (placeDigit_wrapped (by decide) (by decide) reached (by omega))⟩
    · exact ⟨14, by decide, inside,
        Or.inr (placeDigit_wrapped (by decide) (by decide) reached (by omega))⟩
    · exact ⟨28, by decide, inside,
        Or.inr (placeDigit_wrapped (by decide) (by decide) reached (by omega))⟩

/-- No 32-bit number has a digit there. -/
theorem decimalCalls_blank {place : Nat} (high : 10 ≤ place)
    (inside : place < style.len.toNat) :
    (decimalCalls style num)[style.len.toNat - 1 - place]? =
      some (style.call (style.len.toNat - 1 - place) style.blank) := by
  have back : style.len.toNat - 1 - (style.len.toNat - 1 - place) = place := by
    omega
  have none : num.toNat % 10 ^ style.len.toNat / 10 ^ place = 0 :=
    Nat.div_eq_of_lt (lt_of_le_of_lt (Nat.mod_le _ _) (pow_high high))
  have blank : decimalChar style.len style.blank
      (num.toNat % 10 ^ style.len.toNat) (style.len.toNat - 1 - place) =
        style.blank := by
    refine if_pos ⟨by omega, ?_⟩
    rw [back]
    exact none
  rw [decimalCalls_eq, List.getElem?_map, List.getElem?_range (by omega),
    Option.map_some, blank]

theorem ne_of_pad {blank : UInt8} {place : Nat}
    (pad : blank = 0x20 ∨ blank = 0x30) (digit : placeDigit num place ≠ 0) :
    blank ≠ placeDigit num place + 0x30 := by
  have small := placeDigit_toNat num place
  have positive : (placeDigit num place).toNat ≠ 0 :=
    fun zero => digit (UInt8.toNat_inj.mp zero)
  intro same
  have value := congrArg UInt8.toNat same
  rw [UInt8.toNat_add] at value
  change _ = (_ + 48) % 256 at value
  rcases pad with rfl | rfl
  · change 32 = _ at value
    omega
  · change 48 = _ at value
    omega

theorem not_decimalCalls (pad : style.blank = 0x20 ∨ style.blank = 0x30)
    (large : decimalReach style.len.toNat ≤ num.toNat) :
    style.showDigits num style.len.toNat 0 false ≠
      some (decimalCalls style num) := by
  intro drawn
  obtain ⟨place, high, inside, zero | digit⟩ :=
    exists_wrong_place style.len.toNat_lt large
  all_goals
    have back : style.len.toNat - (style.len.toNat - 1 - place) - 1 = place := by
      omega
  · rw [showDigits_divides (Nat.zero_le (style.len.toNat - 1 - place))
      (by omega) (by rwa [back])] at drawn
    cases drawn
  · have shown := showDigits_at drawn
      (Nat.zero_le (style.len.toNat - 1 - place)) (by omega) (by rwa [back])
    rw [back, Nat.sub_zero, decimalCalls_blank high inside,
      Option.some_inj] at shown
    have same : style.blank = placeDigit num place + 0x30 :=
      congrArg CharCall.chr shown
    exact ne_of_pad pad digit same

end Shown

/-- A number is shown right exactly when no wrapped power reaches it. -/
theorem showsDecimal_iff (x y : UInt16) (num : UInt32) (len size mode : UInt8)
    (color : UInt16) :
    ShowsDecimal x y num len size mode color ↔
      num.toNat < decimalReach len.toNat := by
  constructor
  · intro shows
    by_contra large
    exact not_decimalCalls (Or.inl rfl) (Nat.le_of_not_lt large) shows.plain
  · intro fits
    exact ⟨showDigits_fits fits, showDigits_fits fits, rfl⟩

/-- The first of eleven places shows 3, for the tenth power is 1410065408. -/
theorem showNum_eleven_places :
    ¬ ShowsDecimal 0 0 4294967295 11 16 0 0xF800 := fun shows =>
  not_decimalCalls (Or.inl rfl) (by decide) shows.plain

example : lcdShowNum 0 0 7 33 16 0xF800 = none := by decide

end Ch32v307.Lcd
