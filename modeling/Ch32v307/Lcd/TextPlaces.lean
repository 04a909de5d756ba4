import Ch32v307.Lcd.StringLayout

namespace Ch32v307.Lcd

/-! Where the characters of a string stand, for all 16-bit arguments: boxes
that wrap around the 16-bit range are laid out too. -/

/-- The places of a line before the right end of the box, as the column reaches
it in one of its turns through the 16-bit range. -/
def placesInTurn (start right : UInt16) (half turn : Nat) : Nat :=
  (right.toNat + 65536 * turn - start.toNat + half - 1) / half

/-- The places of a line: those of the first turn that does not step over the
columns behind the box. The steps come round after three turns. -/
def linePlaces (start right : UInt16) (half : Nat) : Option Nat :=
  ([0, 1, 2].find? fun turn =>
    start.toNat + placesInTurn start right half turn * half <
      65536 * (turn + 1)).map (placesInTurn start right half)

/-- The line of a character and its place there. The first line may have no
place, a later one has one or more. -/
def textLine (first later : Option Nat) (i : Nat) : Nat × Nat :=
  match first with
  | none => (0, i)
  | some first =>
      if i < first then (0, i)
      else match later with
        | none => (1, i - first)
        | some later =>
            ((i - first) / max 1 later + 1, (i - first) % max 1 later)

/-- The lines after the first begin in column `x` modulo 256. -/
def lineStart (x : UInt16) (line : Nat) : UInt16 :=
  if line = 0 then x else UInt16.ofNat (x.toNat % 256)

def placeAt (x y : UInt16) (size : UInt8) (line place : Nat) :
    UInt16 × UInt16 :=
  (lineStart x line + UInt16.ofNat (place * (size.toNat / 2)),
    y + UInt16.ofNat (line * size.toNat))

def textPlace (x y width : UInt16) (size : UInt8) (i : Nat) :
    UInt16 × UInt16 :=
  let places := fun line =>
    linePlaces (lineStart x line) (width + x) (size.toNat / 2)
  let (line, place) := textLine (places 0) (places 1) i
  placeAt x y size line place

/-! The loop keeps to the layout. -/

/-- The number is that of the places before the first that is past. -/
def FirstPast (past : Nat → Prop) : Option Nat → Prop
  | none => ∀ place, ¬ past place
  | some count => past count ∧ ∀ place < count, ¬ past place

section Lines

variable {past pastLater : Nat → Prop} {first later : Option Nat}

theorem textLine_first {count i : Nat} (inFirst : i < count) :
    textLine (some count) later i = (0, i) :=
  if_pos inFirst

theorem textLine_later {count each i : Nat} (beyond : ¬ i < count) :
    textLine (some count) (some each) i =
      ((i - count) / max 1 each + 1, (i - count) % max 1 each) :=
  if_neg beyond

theorem textLine_unending {count i : Nat} (beyond : ¬ i < count) :
    textLine (some count) none i = (1, i - count) :=
  if_neg beyond

/-- The first character behind those of the first line begins the second. -/
theorem textLine_second (count : Nat) :
    textLine (some count) later count = (1, 0) := by
  have beyond := Nat.lt_irrefl count
  cases later with
  | none => rw [textLine_unending beyond, Nat.sub_self]
  | some each =>
      rw [textLine_later beyond, Nat.sub_self, Nat.zero_div, Nat.zero_mod]

variable (later) in
theorem textLine_start (ends : FirstPast past first) :
    (past 0 ∧ textLine first later 0 = (1, 0)) ∨
      (¬ past 0 ∧ textLine first later 0 = (0, 0)) := by
  cases first with
  | none => exact Or.inr ⟨ends 0, rfl⟩
  | some count =>
      cases count with
      | zero => exact Or.inl ⟨ends.1, textLine_second 0⟩
      | succ count =>
          exact Or.inr ⟨ends.2 0 (Nat.succ_pos count),
            textLine_first (Nat.succ_pos count)⟩

/-- The next character is in the next place, or begins the next line. -/
theorem textLine_next (ends : FirstPast past first)
    (endsLater : FirstPast pastLater later)
    (stays : pastLater 0 → pastLater 1) (i : Nat) {line place : Nat}
    (here : textLine first later i = (line, place)) :
    ((if line = 0 then past else pastLater) (place + 1) ∧
        textLine first later (i + 1) = (line + 1, 0)) ∨
      (¬ (if line = 0 then past else pastLater) (place + 1) ∧
        textLine first later (i + 1) = (line, place + 1)) := by
  cases first with
  | none =>
      obtain ⟨rfl, rfl⟩ := Prod.mk.inj here
      exact Or.inr ⟨ends (i + 1), rfl⟩
  | some count =>
      by_cases inFirst : i < count
      · rw [textLine_first inFirst] at here
        obtain ⟨rfl, rfl⟩ := Prod.mk.inj here
        rw [if_pos rfl]
        rcases Nat.lt_or_eq_of_le inFirst with more | rfl
        · exact Or.inr ⟨ends.2 _ more, textLine_first more⟩
        · exact Or.inl ⟨ends.1, textLine_second _⟩
      · have beyond : ¬ i + 1 < count := by omega
        have next : i + 1 - count = i - count + 1 := by omega
        cases later with
        | none =>
            rw [textLine_unending inFirst] at here
            obtain ⟨rfl, rfl⟩ := Prod.mk.inj here
            rw [textLine_unending beyond, next]
            exact Or.inr ⟨endsLater _, rfl⟩
        | some each =>
            rw [textLine_later inFirst] at here
            obtain ⟨rfl, rfl⟩ := Prod.mk.inj here
            rw [if_neg (Nat.succ_ne_zero _), textLine_later beyond, next]
            have part := Nat.mod_lt (i - count) (by omega : max 1 each > 0)
            rcases Nat.lt_or_eq_of_le part with more | last
            · obtain ⟨line, place⟩ := succ_column more
              rw [line, place]
              exact Or.inr ⟨endsLater.2 _ (by omega), rfl⟩
            · obtain ⟨line, place⟩ := succ_line last
              rw [line, place]
              refine Or.inl ⟨?_, rfl⟩
              rw [Nat.succ_eq_add_one] at last
              rw [last]
              rcases Nat.eq_zero_or_pos each with rfl | some_places
              · exact stays endsLater.1
              · rw [max_eq_right some_places]
                exact endsLater.1

end Lines

def PastBox (start right : UInt16) (half place : Nat) : Prop :=
  start + UInt16.ofNat (place * half) ≥ right

/-- The turns before go on past the end of the 16-bit range. -/
def StepsOver (start right : UInt16) (half turn : Nat) : Prop :=
  ∀ before < turn, 65536 * (before + 1) ≤
    start.toNat + placesInTurn start right half before * half

section Places

variable {start right : UInt16} {half place turn : Nat}

theorem lt_placesInTurn (positive : 0 < half) :
    place < placesInTurn start right half turn ↔
      start.toNat + place * half < right.toNat + 65536 * turn := by
  unfold placesInTurn
  rw [Nat.lt_iff_add_one_le, Nat.le_div_iff_mul_le positive, Nat.succ_mul]
  omega

theorem pastBox_iff :
    PastBox start right half place ↔
      right.toNat ≤ (start.toNat + place * half) % 65536 := by
  rw [PastBox, ge_iff_le, UInt16.le_iff_toNat_le, UInt16.toNat_add,
    UInt16.toNat_ofNat', Nat.add_mod_mod]

/-- A place of a turn that steps over the end is before it. -/
theorem StepsOver.before (steps : StepsOver start right half turn)
    (positive : 0 < half) (early : start.toNat + place * half < 65536 * turn) :
    (start.toNat + place * half) % 65536 < right.toNat := by
  obtain ⟨own, inTurn, column⟩ : ∃ own, own < turn ∧
      start.toNat + place * half =
        65536 * own + (start.toNat + place * half) % 65536 :=
    ⟨(start.toNat + place * half) / 65536, by omega, by omega⟩
  have stepped := steps own inTurn
  have part := Nat.mod_lt (start.toNat + place * half) (by decide : 65536 > 0)
  have before : place < placesInTurn start right half own := by
    by_contra after
    have := Nat.mul_le_mul_right half (Nat.le_of_not_lt after)
    omega
  have := (lt_placesInTurn positive).mp before
  omega

theorem StepsOver.firstPast (steps : StepsOver start right half turn)
    (positive : 0 < half)
    (ends : start.toNat + placesInTurn start right half turn * half <
      65536 * (turn + 1)) :
    FirstPast (PastBox start right half)
      (some (placesInTurn start right half turn)) := by
  have last := right.toNat_lt
  constructor
  · rw [pastBox_iff]
    have reached := mt (lt_placesInTurn positive).mpr
      (Nat.lt_irrefl (placesInTurn start right half turn))
    omega
  · intro place inLine
    have inside := (lt_placesInTurn positive).mp inLine
    rw [pastBox_iff, Nat.not_le]
    rcases Nat.lt_or_ge (start.toNat + place * half) (65536 * turn) with
      early | inTurn
    · exact steps.before positive early
    · omega

/-- Where three turns step over the end, every turn does: the steps come
round. -/
theorem StepsOver.never (steps : StepsOver start right half 3)
    (positive : 0 < half) (period : 196608 / half * half = 196608) :
    FirstPast (PastBox start right half) none := by
  intro place
  have column := start.toNat_lt
  have inside : start < right := by
    have first := steps 0 (by decide)
    have some_places : 0 < placesInTurn start right half 0 := by
      by_contra none
      have zero : placesInTurn start right half 0 = 0 := by omega
      rw [zero] at first
      omega
    have := (lt_placesInTurn positive).mp some_places
    rw [UInt16.lt_iff_toNat_lt]
    omega
  rw [UInt16.lt_iff_toNat_lt] at inside
  generalize 196608 / half = count at period
  have some_count : 0 < count := by
    by_contra none
    have zero : count = 0 := by omega
    rw [zero, Nat.zero_mul] at period
    cases period
  have round := Nat.mod_add_div place count
  have rest := Nat.mul_lt_mul_of_pos_right (Nat.mod_lt place some_count) positive
  have turned : place * half =
      place % count * half + 196608 * (place / count) := by
    rw [← period]
    nth_rewrite 1 [← round]
    ring
  rw [pastBox_iff, Nat.not_le]
  rcases Nat.lt_or_ge (start.toNat + place % count * half) (65536 * 3) with
    early | again
  · have := steps.before positive early
    omega
  · omega

theorem StepsOver.next (steps : StepsOver start right half turn)
    (stepped : ¬ start.toNat + placesInTurn start right half turn * half <
      65536 * (turn + 1)) : StepsOver start right half (turn + 1) := by
  intro before early
  rcases Nat.lt_or_eq_of_le (Nat.le_of_lt_succ early) with earlier | rfl
  · exact steps before earlier
  · exact Nat.le_of_not_lt stepped

end Places

theorem linePlaces_spec {size : UInt8} (supported : IsCharSize size)
    (start right : UInt16) :
    FirstPast (PastBox start right (size.toNat / 2))
      (linePlaces start right (size.toNat / 2)) := by
  have period : 196608 / (size.toNat / 2) * (size.toNat / 2) = 196608 := by
    rcases supported with rfl | rfl | rfl | rfl
    all_goals rfl
  have positive : 0 < size.toNat / 2 := by
    have := half_size supported
    omega
  generalize size.toNat / 2 = half at period positive ⊢
  have noTurn : StepsOver start right half 0 := by
    intro before early
    cases early
  unfold linePlaces
  rw [List.find?_cons]
  split
  case h_1 ends => exact noTurn.firstPast positive (of_decide_eq_true ends)
  case h_2 steps =>
    have first := noTurn.next (of_decide_eq_false steps)
    rw [List.find?_cons]
    split
    case h_1 ends => exact first.firstPast positive (of_decide_eq_true ends)
    case h_2 steps =>
      have second := first.next (of_decide_eq_false steps)
      rw [List.find?_cons]
      split
      case h_1 ends => exact second.firstPast positive (of_decide_eq_true ends)
      case h_2 steps =>
        exact (second.next (of_decide_eq_false steps)).never positive period

/-! The cursor of the loop. -/

def TextBox.cursor (box : TextBox) : Nat → (x y : UInt16) → UInt16 × UInt16
  | 0, x, y => box.wrap x y
  | i + 1, x, y =>
      let (x, y) := box.wrap x y
      box.cursor i (x + (box.size / 2).toUInt16) y

theorem TextBox.cursor_succ (box : TextBox) (i : Nat) (x y : UInt16) :
    box.cursor (i + 1) x y =
      box.wrap ((box.cursor i x y).1 + (box.size / 2).toUInt16)
        (box.cursor i x y).2 := by
  induction i generalizing x y with
  | zero => rfl
  | succ i ih => exact ih _ _

theorem mem_show {box : TextBox} {p : List UInt8} {x y : UInt16}
    {call : CharCall} :
    call ∈ box.show p x y ↔
      ∃ i chr, (printed p)[i]? = some chr ∧
        (∀ j ≤ i, (box.cursor j x y).2 < box.height) ∧
        call = ⟨(box.cursor i x y).1, (box.cursor i x y).2, chr, box.size, 0,
          box.color⟩ := by
  induction p generalizing x y with
  | nil => simp [TextBox.show, printed]
  | cons chr rest ih =>
      by_cases printable : Printable chr
      · rw [show_cons box printable, printed_cons printable]
        by_cases below : (box.wrap x y).2 ≥ box.height
        · rw [if_pos below]
          constructor
          · intro member
            cases member
          · rintro ⟨i, _, -, inBox, -⟩
            exact absurd (inBox 0 (Nat.zero_le i)) (UInt16.not_lt.mpr below)
        · rw [if_neg below, List.mem_cons, ih]
          constructor
          · rintro (rfl | ⟨i, other, shown, inBox, rfl⟩)
            · refine ⟨0, chr, rfl, ?_, rfl⟩
              intro j first
              obtain rfl := Nat.le_zero.mp first
              exact UInt16.not_le.mp below
            · refine ⟨i + 1, other, shown, ?_, rfl⟩
              intro j upTo
              cases j with
              | zero => exact UInt16.not_le.mp below
              | succ j => exact inBox j (Nat.le_of_succ_le_succ upTo)
          · rintro ⟨i, other, shown, inBox, rfl⟩
            cases i with
            | zero =>
                obtain rfl := Option.some.inj shown
                exact Or.inl rfl
            | succ i =>
                exact Or.inr ⟨i, other, shown,
                  fun j upTo => inBox (j + 1) (Nat.succ_le_succ upTo), rfl⟩
      · rw [printed_stop printable, TextBox.show, if_neg printable]
        simp

section Cursor

variable {x y width height : UInt16} {size : UInt8} {color : UInt16}

theorem lineStart_later (x : UInt16) (line : Nat) :
    lineStart x (line + 1) = x.toUInt8.toUInt16 := by
  rw [lineStart, if_neg (Nat.succ_ne_zero line)]
  apply UInt16.toNat_inj.mp
  rw [UInt16.toNat_ofNat', UInt8.toNat_toUInt16, UInt16.toNat_toUInt8]
  omega

/-- A first place past the box is followed by one that is, too. -/
theorem pastBox_again (supported : IsCharSize size) {right : UInt16}
    (first : PastBox (lineStart x 1) right (size.toNat / 2) 0) :
    PastBox (lineStart x 1) right (size.toNat / 2) 1 := by
  have small : (lineStart x 1).toNat < 256 := by
    rw [lineStart_later, UInt8.toNat_toUInt16]
    exact UInt8.toNat_lt _
  have half := half_size supported
  rw [pastBox_iff] at first ⊢
  omega

theorem placeAt_start (x y : UInt16) (size : UInt8) :
    placeAt x y size 0 0 = (x, y) := by
  rw [placeAt, Nat.zero_mul, Nat.zero_mul]
  exact Prod.ext (UInt16.add_zero x) (UInt16.add_zero y)

theorem placeAt_succ (x y : UInt16) (size : UInt8) (line place : Nat) :
    placeAt x y size line (place + 1) =
      ((placeAt x y size line place).1 + (size / 2).toUInt16,
        (placeAt x y size line place).2) := by
  have half : (size / 2).toUInt16 = UInt16.ofNat (size.toNat / 2) := by
    apply UInt16.toNat_inj.mp
    have := size.toNat_lt
    rw [UInt8.toNat_toUInt16, UInt8.toNat_div, UInt16.toNat_ofNat']
    change size.toNat / 2 = _
    omega
  rw [half]
  unfold placeAt
  rw [Nat.succ_mul, UInt16.ofNat_add, UInt16.add_assoc]

theorem placeAt_line (x y : UInt16) (size : UInt8) (line place : Nat) :
    placeAt x y size (line + 1) 0 =
      (x.toUInt8.toUInt16,
        (placeAt x y size line place).2 + size.toUInt16) := by
  unfold placeAt
  rw [Nat.zero_mul, lineStart_later, Nat.succ_mul, UInt16.ofNat_add,
    UInt16.ofNat_uInt8ToNat, UInt16.add_assoc]
  exact Prod.ext (UInt16.add_zero _) rfl

variable {line place : Nat}

variable (y height color) in
/-- The test for the end of the line, at a place. -/
theorem wrap_placeAt {here : Nat × Nat}
    (goesOn : (PastBox (lineStart x line) (width + x) (size.toNat / 2) place ∧
        here = (line + 1, 0)) ∨
      (¬ PastBox (lineStart x line) (width + x) (size.toNat / 2) place ∧
        here = (line, place))) :
    (textBox x y width height size color).wrap (placeAt x y size line place).1
        (placeAt x y size line place).2 =
      placeAt x y size here.1 here.2 := by
  rcases goesOn with ⟨past, rfl⟩ | ⟨before, rfl⟩
  · rw [placeAt_line x y size line place]
    exact if_pos past
  · exact if_neg before

variable (height color) in
theorem cursor_eq_textPlace (supported : IsCharSize size) (i : Nat) :
    (textBox x y width height size color).cursor i x y =
      textPlace x y width size i := by
  have ends := linePlaces_spec supported (lineStart x 0) (width + x)
  have endsLater := linePlaces_spec supported (lineStart x 1) (width + x)
  induction i with
  | zero =>
      have start := placeAt_start x y size
      have wrapped := wrap_placeAt y height color
        (textLine_start
          (linePlaces (lineStart x 1) (width + x) (size.toNat / 2)) ends)
      rw [start] at wrapped
      exact wrapped
  | succ i ih =>
      obtain ⟨line, place, here⟩ : ∃ line place,
          textLine (linePlaces (lineStart x 0) (width + x) (size.toNat / 2))
            (linePlaces (lineStart x 1) (width + x) (size.toNat / 2)) i =
            (line, place) := ⟨_, _, rfl⟩
      have goesOn := textLine_next ends endsLater (pastBox_again supported) i
        here
      have sameLine : (if line = 0 then
            PastBox (lineStart x 0) (width + x) (size.toNat / 2)
          else PastBox (lineStart x 1) (width + x) (size.toNat / 2)) =
          PastBox (lineStart x line) (width + x) (size.toNat / 2) := by
        cases line with
        | zero => rfl
        | succ line => rfl
      rw [sameLine] at goesOn
      have placed : textPlace x y width size i = placeAt x y size line place := by
        unfold textPlace
        dsimp only
        rw [here]
      have wrapped := wrap_placeAt y height color goesOn
      rw [TextBox.cursor_succ, ih, placed]
      rw [placeAt_succ] at wrapped
      exact wrapped

/-- The characters a string draws, up to the first whose line begins below the
box, stand in the layout. -/
theorem mem_lcdShowString (supported : IsCharSize size) {p : List UInt8}
    {call : CharCall} :
    call ∈ lcdShowString x y width height size p color ↔
      ∃ i chr, (printed p)[i]? = some chr ∧
        (∀ j ≤ i, (textPlace x y width size j).2 < height + y) ∧
        call = ⟨(textPlace x y width size i).1, (textPlace x y width size i).2,
          chr, size, 0, color⟩ := by
  simp only [← cursor_eq_textPlace height color supported]
  exact mem_show

end Cursor

end Ch32v307.Lcd
