import Ch32v307.Image.Transform
import Ch32v307.Lcd.PaintPaths

namespace Ch32v307.Image

open Lcd

/-! From a picture file to the screen. -/

def Stored (memory : Nat → UInt16) (elements : List Nat) : Prop :=
  ∀ place value, elements[place]? = some value → (memory place).toNat = value

structure Depicts (array : CArray) (image : RgbImage) : Prop where
  size : array.size = image.width * image.height
  length : array.elements.length = image.width * image.height
  packed : ∀ x y, x < image.width → y < image.height →
    ∃ value, array.elements[y * image.width + x]? = some value ∧
      Packs value (image.pixel x y)

/-- A panel that shows a picture in its upper left corner and is otherwise
unchanged. -/
structure Shows (array : CArray) (image : RgbImage) (before after : Panel) :
    Prop where
  inside : ∀ x y, x < image.width → y < image.height →
    array.elements[y * image.width + x]? = some (after.pixels x y).toNat
  outside : ∀ x y, ¬ (x < image.width ∧ y < image.height) →
    after.pixels x y = before.pixels x y

/-- The call `main` makes for a picture. -/
def showPicture (dev : LcdDev) (width height : Nat) (memory : Nat → UInt16) :
    List BusMsg :=
  lcdColorFill dev 0 0 (UInt16.ofNat width - 1) (UInt16.ofNat height - 1) memory

theorem side_back {size bound : Nat} (fits : size ≤ bound)
    (small : bound < 65536) :
    (UInt16.ofNat size - 1 - 0 + 1).toNat = size := by
  have value : (UInt16.ofNat size).toNat = size :=
    UInt16.toNat_ofNat_of_lt (lt_of_le_of_lt fits small)
  simp only [UInt16.sub_zero, UInt16.sub_add_cancel, value]

theorem showPicture_pixels {dev : LcdDev} (commands : dev.CommandsSet)
    {panel : Panel} (full : panel.WindowFull dev) {width height : Nat}
    (columns : width ≤ dev.width.toNat) (rows : height ≤ dev.height.toNat)
    (memory : Nat → UInt16) (x y : Nat) :
    (panel.send dev.addressing (showPicture dev width height memory)).pixels
        x y =
      if x < width ∧ y < height then memory (y * width + x)
      else panel.pixels x y := by
  have onScreenX : 0 < dev.width := by
    rw [UInt16.lt_iff_toNat_lt, ← full.right]
    exact Nat.succ_pos _
  have painted := (paintRows_spec commands full.endsFull onScreenX 0 height
    (fun i => (List.range width).map fun j => memory (i * width + j))
    (by simpa using rows) (fun i _ => by simpa using columns)).2
  rw [showPicture, lcdColorFill_eq_paintRows,
    side_back columns dev.width.toNat_lt, side_back rows dev.height.toNat_lt,
    painted, rowsPainted]
  by_cases inRows : y < height
  · have covered : (0 : UInt16).toNat ≤ y ∧ y < (0 : UInt16).toNat + height ∧
        (0 : UInt16).toNat ≤ x := by
      refine ⟨Nat.zero_le y, ?_, Nat.zero_le x⟩
      simpa using inRows
    rw [if_pos covered]
    by_cases inColumns : x < width
    · rw [if_pos ⟨inColumns, inRows⟩]
      simp [inColumns]
    · rw [if_neg fun inside => inColumns inside.1,
        List.getElem?_eq_none (by simpa using inColumns)]
      rfl
  · rw [if_neg fun covered => inRows (by simpa using covered.2.1),
      if_neg fun inside => inRows inside.2]

theorem parsed_depicts (name : List Char) (image : RgbImage) :
    Depicts ⟨name, image.width * image.height, rgb565Data image⟩ image where
  size := rfl
  length := rgb565Data_length image
  packed _ _ column row :=
    ⟨_, rgb565Data_getElem? image column row, rgb888ToRgb565_packs _⟩

/-- The generated text is an array that holds the picture, and the driver puts
that array on the screen pixel by pixel. -/
theorem pipeline (varNamePrefix : List Char) (name : IsName varNamePrefix)
    (image : RgbImage) :
    ∃ array,
      parseArray (convertImageToRgb565Array varNamePrefix image) = some array ∧
      Depicts array image ∧
      ∀ (dev : LcdDev) (panel : Panel) (memory : Nat → UInt16),
        dev.CommandsSet → panel.WindowFull dev →
        image.width ≤ dev.width.toNat → image.height ≤ dev.height.toNat →
        Stored memory array.elements →
        Shows array image panel (panel.send dev.addressing
          (showPicture dev image.width image.height memory)) := by
  refine ⟨_, parseArray_convertImage name image, parsed_depicts _ image, ?_⟩
  intro dev panel memory commands full columns rows stored
  have pixels := showPicture_pixels commands full columns rows memory
  constructor
  · intro x y column row
    have element := rgb565Data_getElem? image column row
    rw [pixels, if_pos ⟨column, row⟩, stored _ _ element]
    exact element
  · intro x y outside
    rw [pixels, if_neg outside]

def redWhite : RgbImage where
  width := 2
  height := 1
  pixel x _ := if x = 0 then (255, 0, 0) else (255, 255, 255)

example : String.ofList (convertImageToRgb565Array "gImage".toList redWhite) =
    "const unsigned short gImage_2x1[2] = \x7b\n0xF800,0xFFFF,\n\x7d;\n" := by
  decide

theorem isName_gImage : IsName "gImage".toList := by
  refine ⟨List.all_eq_true.mp rfl, ?_⟩
  intro char head
  cases head
  rfl

theorem pipeline_redWhite :
    ∃ array,
      parseArray (convertImageToRgb565Array "gImage".toList redWhite) =
        some array ∧
      Shows array redWhite blackPanel (blackPanel.send ili9341Dev.addressing
        (showPicture ili9341Dev 2 1 fun place =>
          UInt16.ofNat (array.elements[place]?.getD 0))) := by
  obtain ⟨array, parsed, -, shown⟩ :=
    pipeline "gImage".toList isName_gImage redWhite
  have read := parseArray_convertImage isName_gImage redWhite
  obtain rfl := Option.some.inj (parsed.symm.trans read)
  refine ⟨_, parsed, shown ili9341Dev blackPanel _ ⟨rfl, rfl, rfl⟩
    ⟨rfl, rfl, rfl, rfl⟩ (by decide) (by decide) ?_⟩
  intro place value element
  have listed : value ∈ rgb565Data redWhite := List.mem_of_getElem? element
  have small : ∀ value ∈ rgb565Data redWhite, value < 65536 := by decide
  simp only [element, Option.getD_some]
  exact UInt16.toNat_ofNat_of_lt (small value listed)

end Ch32v307.Image
