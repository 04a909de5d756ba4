import Ch32v307.Image.CText

namespace Ch32v307.Image

open Data

/-! The generator of picture arrays: RGB pixels to the text of a C array. -/

structure RgbImage where
  width : Nat
  height : Nat
  pixel : Nat → Nat → UInt8 × UInt8 × UInt8

def RgbImage.getdata (image : RgbImage) : List (UInt8 × UInt8 × UInt8) :=
  (List.range image.height).flatMap fun y =>
    (List.range image.width).map fun x => image.pixel x y

def rgb888ToRgb565 (r g b : Nat) : Nat :=
  ((r &&& 0xF8) <<< 8) ||| ((g &&& 0xFC) <<< 3) ||| (b >>> 3)

def rgb565Data (image : RgbImage) : List Nat :=
  image.getdata.map fun (r, g, b) => rgb888ToRgb565 r.toNat g.toNat b.toNat

def writeElements : Nat → List Nat → List Char
  | _, [] => []
  | i, val :: rest =>
      '0' :: 'x' :: (Numeral.padded 16 4 val ++
        ',' :: ((if (i + 1) % 12 = 0 then ['\n'] else []) ++
          writeElements (i + 1) rest))

def varName (varNamePrefix : List Char) (image : RgbImage) : List Char :=
  varNamePrefix ++ '_' :: (Numeral.text 10 image.width ++
    'x' :: Numeral.text 10 image.height)

/-- What `convert_image_to_rgb565_array` writes to the output file. -/
def convertImageToRgb565Array (varNamePrefix : List Char) (image : RgbImage) :
    List Char :=
  "const unsigned short ".toList ++ (varName varNamePrefix image ++
    '[' :: (Numeral.text 10 (image.width * image.height) ++
      "] = ".toList ++ lbrace :: '\n' ::
        (writeElements 0 (rgb565Data image) ++
          '\n' :: rbrace :: ";\n".toList)))

/-! Packing. -/

/-- The top five, six and five bits of the channels, each in its place. -/
structure Packs (value : Nat) (pixel : UInt8 × UInt8 × UInt8) : Prop where
  red : value / 2048 = pixel.1.toNat / 8
  green : value / 32 % 64 = pixel.2.1.toNat / 4
  blue : value % 32 = pixel.2.2.toNat / 8
  fits : value < 65536

theorem rgb888ToRgb565_eq {r g b : Nat} (red : r < 256) (green : g < 256)
    (blue : b < 256) :
    rgb888ToRgb565 r g b = r / 8 * 2048 + g / 4 * 32 + b / 8 := by
  have highRed : ∀ r < 256, r &&& 0xF8 = r / 8 * 8 := by decide +kernel
  have highGreen : ∀ g < 256, g &&& 0xFC = g / 4 * 4 := by decide +kernel
  have redPart : (r &&& 0xF8) <<< 8 = 2 ^ 11 * (r / 8) := by
    rw [highRed r red, Nat.shiftLeft_eq]
    omega
  have greenPart : (g &&& 0xFC) <<< 3 = 2 ^ 5 * (g / 4) := by
    rw [highGreen g green, Nat.shiftLeft_eq]
    omega
  have bluePart : b >>> 3 = b / 8 := Nat.shiftRight_eq_div_pow b 3
  have upper : 2 ^ 11 * (r / 8) ||| 2 ^ 5 * (g / 4) =
      2 ^ 5 * (2 ^ 6 * (r / 8) + g / 4) := by
    rw [← Nat.two_pow_add_eq_or_of_lt (by omega)]
    omega
  rw [rgb888ToRgb565, redPart, greenPart, bluePart, upper,
    ← Nat.two_pow_add_eq_or_of_lt (by omega)]
  omega

theorem rgb888ToRgb565_packs (pixel : UInt8 × UInt8 × UInt8) :
    Packs (rgb888ToRgb565 pixel.1.toNat pixel.2.1.toNat pixel.2.2.toNat)
      pixel := by
  have red := pixel.1.toNat_lt
  have green := pixel.2.1.toNat_lt
  have blue := pixel.2.2.toNat_lt
  have value := rgb888ToRgb565_eq red green blue
  constructor
  all_goals omega

/-! Order and count. -/

theorem flatMap_range_eq {Value : Type} (width height : Nat)
    (entry : Nat → Nat → Value) :
    ((List.range height).flatMap fun y => (List.range width).map fun x =>
        entry x y) =
      (List.range (height * width)).map fun place =>
        entry (place % width) (place / width) := by
  induction height with
  | zero => simp
  | succ height ih =>
      rw [List.range_succ, List.flatMap_append, ih, Nat.succ_mul,
        List.range_add, List.map_append, List.flatMap_singleton, List.map_map]
      congr 1
      refine List.map_congr_left fun x member => ?_
      have inside := List.mem_range.mp member
      simp only [Function.comp_apply]
      rw [Nat.mul_comm, Nat.mul_add_mod, Nat.mod_eq_of_lt inside,
        Nat.mul_add_div (by omega), Nat.div_eq_of_lt inside, Nat.add_zero]

theorem rgb565Data_length (image : RgbImage) :
    (rgb565Data image).length = image.width * image.height := by
  rw [rgb565Data, RgbImage.getdata, flatMap_range_eq, List.length_map,
    List.length_map, List.length_range, Nat.mul_comm]

theorem rgb565Data_getElem? (image : RgbImage) {x y : Nat}
    (column : x < image.width) (row : y < image.height) :
    (rgb565Data image)[y * image.width + x]? =
      some (rgb888ToRgb565 (image.pixel x y).1.toNat
        (image.pixel x y).2.1.toNat (image.pixel x y).2.2.toNat) := by
  have place : y * image.width + x < image.height * image.width := by
    calc
      y * image.width + x < y * image.width + image.width :=
        Nat.add_lt_add_left column _
      _ = (y + 1) * image.width := (Nat.succ_mul ..).symm
      _ ≤ image.height * image.width := Nat.mul_le_mul_right _ row
  have columnBack : (y * image.width + x) % image.width = x := by
    rw [Nat.mul_add_mod_self_right, Nat.mod_eq_of_lt column]
  have rowBack : (y * image.width + x) / image.width = y := by
    rw [Nat.mul_comm, Nat.mul_add_div (by omega), Nat.div_eq_of_lt column,
      Nat.add_zero]
  rw [rgb565Data, RgbImage.getdata, flatMap_range_eq, List.map_map,
    List.getElem?_map, List.getElem?_range place]
  simp only [Option.map_some, Function.comp_apply, columnBack, rowBack]

/-! The text is a C array. -/

theorem text_isWordChar {base : Nat} (large : 1 < base) (sixteen : base ≤ 16)
    (value : Nat) :
    ∀ char ∈ Numeral.text base value, isWordChar char = true := by
  obtain ⟨digits, same, -, small, -⟩ := Numeral.text_eq_map large value
  intro char member
  rw [same] at member
  obtain ⟨digit, listed, rfl⟩ := List.mem_map.mp member
  exact digitChar_isWordChar (lt_of_lt_of_le (small digit listed) sixteen)

theorem hex_isWordChar (width value : Nat) :
    ∀ char ∈ '0' :: 'x' :: Numeral.padded 16 width value,
      isWordChar char = true := by
  obtain ⟨digits, same, -, small, -⟩ :=
    Numeral.padded_eq_map (show 1 < 16 by decide) width value
  intro char member
  rw [same] at member
  simp only [List.mem_cons, List.mem_map] at member
  rcases member with rfl | rfl | ⟨digit, listed, rfl⟩
  · decide
  · decide
  · exact digitChar_isWordChar (small digit listed)

theorem tokens_lineBreak (condition : Prop) [Decidable condition]
    (rest : List Char) :
    tokens ((if condition then ['\n'] else []) ++ rest) = tokens rest := by
  by_cases breaks : condition
  · rw [if_pos breaks]
    exact tokens_blank rfl rfl rest
  · rw [if_neg breaks]
    rfl

theorem tokens_writeElements (i : Nat) (values : List Nat)
    (rest : List Char) :
    tokens (writeElements i values ++ rest) =
      (tokens rest).map (values.flatMap (fun value =>
        [.number value, .punct ',']) ++ ·) := by
  induction values generalizing i with
  | nil => simp [writeElements]
  | cons value more ih =>
      have split : writeElements i (value :: more) ++ rest =
          ('0' :: 'x' :: Numeral.padded 16 4 value) ++
            ',' :: ((if (i + 1) % 12 = 0 then ['\n'] else []) ++
              (writeElements (i + 1) more ++ rest)) := by
        simp [writeElements]
      rw [split, tokens_word (hex_isWordChar 4 value) (wordToken_hex 4 value)
        (endsWord_cons rfl _), tokens_punct rfl rfl,
        tokens_lineBreak, ih]
      simp [Option.map_map, Function.comp_def]

structure IsName (name : List Char) : Prop where
  allWord : ∀ char ∈ name, isWordChar char = true
  start : ∀ char ∈ name.head?, char.isDigit = false

theorem varName_isWordChar {varNamePrefix : List Char}
    (name : IsName varNamePrefix) (image : RgbImage) :
    ∀ char ∈ varName varNamePrefix image, isWordChar char = true := by
  intro char member
  simp only [varName, List.mem_append, List.mem_cons] at member
  rcases member with member | rfl | member | rfl | member
  · exact name.allWord char member
  · decide
  · exact text_isWordChar (by decide) (by decide) _ char member
  · decide
  · exact text_isWordChar (by decide) (by decide) _ char member

theorem wordToken_varName {varNamePrefix : List Char}
    (name : IsName varNamePrefix) (image : RgbImage) :
    wordToken (varName varNamePrefix image) =
      some (.word (varName varNamePrefix image)) := by
  cases varNamePrefix with
  | nil => rfl
  | cons first rest =>
      have start := name.start first rfl
      simp [varName, wordToken, start]

theorem tokens_head (rest : List Char) :
    tokens ("const unsigned short ".toList ++ rest) =
      (tokens rest).map ([.word "const".toList, .word "unsigned".toList,
        .word "short".toList] ++ ·) := by
  have const : wordToken "const".toList = some (.word "const".toList) := rfl
  have unsigned : wordToken "unsigned".toList =
      some (.word "unsigned".toList) := rfl
  have short : wordToken "short".toList = some (.word "short".toList) := rfl
  change tokens ("const".toList ++ ' ' :: ("unsigned".toList ++
    ' ' :: ("short".toList ++ ' ' :: rest))) = _
  rw [tokens_word (List.all_eq_true.mp rfl) const (endsWord_cons rfl _),
    tokens_blank rfl rfl,
    tokens_word (List.all_eq_true.mp rfl) unsigned (endsWord_cons rfl _),
    tokens_blank rfl rfl,
    tokens_word (List.all_eq_true.mp rfl) short (endsWord_cons rfl _),
    tokens_blank rfl rfl, Option.map_map, Option.map_map]
  rfl

theorem tokens_afterSize (rest : List Char) :
    tokens ("] = ".toList ++ rest) =
      (tokens rest).map ([.punct ']', .punct '='] ++ ·) := by
  change tokens (']' :: ' ' :: '=' :: ' ' :: rest) = _
  rw [tokens_punct rfl rfl, tokens_blank rfl rfl, tokens_punct rfl rfl,
    tokens_blank rfl rfl, Option.map_map]
  rfl

theorem tokens_declaration {name size initializer : List Char} {value : Nat}
    {later : List CToken} (nameWord : ∀ char ∈ name, isWordChar char = true)
    (nameToken : wordToken name = some (.word name))
    (sizeWord : ∀ char ∈ size, isWordChar char = true)
    (sizeToken : wordToken size = some (.number value))
    (rest : tokens initializer = some later) :
    tokens ("const unsigned short ".toList ++ (name ++
        '[' :: (size ++ "] = ".toList ++ initializer))) =
      some (.word "const".toList :: .word "unsigned".toList ::
        .word "short".toList :: .word name :: .punct '[' :: .number value ::
        .punct ']' :: .punct '=' :: later) := by
  have sizeTokens : tokens (size ++ "] = ".toList ++ initializer) =
      some (.number value :: .punct ']' :: .punct '=' :: later) := by
    rw [List.append_assoc]
    change tokens (size ++ ']' :: (" = ".toList ++ initializer)) = _
    rw [tokens_word sizeWord sizeToken (endsWord_cons rfl _)]
    change (tokens ("] = ".toList ++ initializer)).map _ = _
    rw [tokens_afterSize, rest]
    rfl
  rw [tokens_head, tokens_word nameWord nameToken (endsWord_cons rfl _),
    tokens_punct rfl rfl, sizeTokens]
  rfl

theorem tokens_initializer (values : List Nat) :
    tokens (lbrace :: '\n' ::
        (writeElements 0 values ++ '\n' :: rbrace :: ";\n".toList)) =
      some (.punct lbrace :: (values.flatMap (fun value =>
        [.number value, .punct ',']) ++ [.punct rbrace, .punct ';'])) := by
  have ending : tokens ('\n' :: rbrace :: ";\n".toList) =
      some [.punct rbrace, .punct ';'] := by decide
  rw [tokens_punct rfl rfl, tokens_blank rfl rfl, tokens_writeElements, ending]
  rfl

theorem parseArray_convertImage {varNamePrefix : List Char}
    (name : IsName varNamePrefix) (image : RgbImage) :
    parseArray (convertImageToRgb565Array varNamePrefix image) =
      some ⟨varName varNamePrefix image, image.width * image.height,
        rgb565Data image⟩ := by
  have declared := tokens_declaration (varName_isWordChar name image)
    (wordToken_varName name image)
    (text_isWordChar (by decide) (by decide) (image.width * image.height))
    (wordToken_decimal (image.width * image.height))
    (tokens_initializer (rgb565Data image))
  unfold parseArray convertImageToRgb565Array
  refine (congrArg (Option.bind · parseTokens) declared).trans ?_
  exact parseTokens_declaration ..

end Ch32v307.Image
