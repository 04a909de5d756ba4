import Ch32v307.Lcd.Shapes

namespace Ch32v307.Lcd

/-! Numbers and strings, as the calls of `lcd_show_char` they make. -/

/-- The arguments of a call of `lcd_show_char`. -/
structure CharCall where
  x : UInt16
  y : UInt16
  chr : UInt8
  size : UInt8
  mode : UInt8
  color : UInt16
  deriving DecidableEq, Repr

def CharCall.messages (dev : LcdDev) (font : UInt8 → UInt8 → Nat → UInt8)
    (gBackColor : UInt32) (call : CharCall) : List BusMsg :=
  lcdShowChar dev font gBackColor call.x call.y call.chr call.size call.mode
    call.color

/-! Numbers. -/

def lcdPowLoop (m : UInt8) : Nat → UInt32 → UInt32
  | 0, result => result
  | n + 1, result => lcdPowLoop m n (result * m.toUInt32)

def lcdPow (m n : UInt8) : UInt32 := lcdPowLoop m n.toNat 1

/-- What `lcd_show_num` and `lcd_show_xnum` are called with. `blank` stands in
the places before the first digit. -/
structure NumStyle where
  x : UInt16
  y : UInt16
  len : UInt8
  size : UInt8
  blank : UInt8
  mode : UInt8
  color : UInt16

def NumStyle.call (style : NumStyle) (t : Nat) (chr : UInt8) : CharCall :=
  ⟨style.x + UInt16.ofNat ((style.size / 2).toNat * t), style.y, chr,
    style.size, style.mode, style.color⟩

/-- The loop, with the places that are left; `none` when it divides by 0. -/
def NumStyle.showDigits (style : NumStyle) (num : UInt32) :
    Nat → (t : Nat) → (enshow : Bool) → Option (List CharCall)
  | 0, _, _ => some []
  | remaining + 1, t, enshow =>
      let power := lcdPow 10 (UInt8.ofNat (style.len.toNat - t - 1))
      if power = 0 then none
      else
        let temp := (num / power % 10).toUInt8
        let shown := fun enshow =>
          (style.showDigits num remaining (t + 1) enshow).map
            (style.call t (temp + 0x30) :: ·)
        if ¬ enshow ∧ t < style.len.toNat - 1 then
          if temp = 0 then
            (style.showDigits num remaining (t + 1) enshow).map
              (style.call t style.blank :: ·)
          else shown true
        else shown enshow

def lcdShowNum (x y : UInt16) (num : UInt32) (len size : UInt8)
    (color : UInt16) : Option (List CharCall) :=
  let style : NumStyle := ⟨x, y, len, size, 0x20, 0, color⟩
  style.showDigits num len.toNat 0 false

def lcdShowXnum (x y : UInt16) (num : UInt32) (len size mode : UInt8)
    (color : UInt16) : Option (List CharCall) :=
  let style : NumStyle :=
    ⟨x, y, len, size, if mode &&& 0x80 ≠ 0 then 0x30 else 0x20,
      mode &&& 0x01, color⟩
  style.showDigits num len.toNat 0 false

/-! Strings, without the zero at their end. -/

def Printable (chr : UInt8) : Prop := chr ≤ 0x7E ∧ chr ≥ 0x20

instance (chr : UInt8) : Decidable (Printable chr) :=
  inferInstanceAs (Decidable (_ ∧ _))

/-- What is fixed while a string is shown: the start of its lines and the ends
of its box. -/
structure TextBox where
  x0 : UInt8
  width : UInt16
  height : UInt16
  size : UInt8
  color : UInt16

/-- The cursor after the test for the end of the line. -/
def TextBox.wrap (box : TextBox) (x y : UInt16) : UInt16 × UInt16 :=
  if x ≥ box.width then (box.x0.toUInt16, y + box.size.toUInt16) else (x, y)

def TextBox.show (box : TextBox) :
    List UInt8 → (x y : UInt16) → List CharCall
  | [], _, _ => []
  | chr :: rest, x, y =>
      if Printable chr then
        let (x, y) := box.wrap x y
        if y ≥ box.height then []
        else
          ⟨x, y, chr, box.size, 0, box.color⟩ ::
            box.show rest (x + (box.size / 2).toUInt16) y
      else []

/-- The start of the lines is kept in an `uint8_t`. -/
def lcdShowString (x y width height : UInt16) (size : UInt8) (p : List UInt8)
    (color : UInt16) : List CharCall :=
  let box : TextBox := ⟨x.toUInt8, width + x, height + y, size, color⟩
  box.show p x y

end Ch32v307.Lcd
