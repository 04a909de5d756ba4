import Ch32v307.Data.Numeral

namespace Ch32v307.Image

open Data

/-! As much of C's syntax as an array of numbers needs: words, numbers and
punctuation, and a declaration with an initializer. -/

inductive CToken where
  | word (name : List Char)
  | number (value : Nat)
  | punct (char : Char)
  deriving DecidableEq, Repr

def isWordChar (char : Char) : Bool := char.isAlphanum || char == '_'

def isBlank (char : Char) : Bool := char == ' ' || char == '\n' || char == '\t'

/-- Hexadecimal after `0x`, octal after `0`, decimal otherwise. -/
def readConstant : List Char → Option Nat
  | '0' :: 'x' :: rest => Numeral.read 16 rest
  | '0' :: 'X' :: rest => Numeral.read 16 rest
  | '0' :: rest => Numeral.read 8 ('0' :: rest)
  | text => Numeral.read 10 text

def wordToken : List Char → Option CToken
  | [] => none
  | first :: rest =>
      if first.isDigit then (readConstant (first :: rest)).map .number
      else some (.word (first :: rest))

def endWord (pending : List Char) (later : List CToken) :
    Option (List CToken) :=
  if pending = [] then some later
  else (wordToken pending).map fun token => token :: later

/-- The tokens of a text that continues a run of word characters. -/
def tokensFrom (pending : List Char) : List Char → Option (List CToken)
  | [] => endWord pending []
  | char :: rest =>
      if isWordChar char then tokensFrom (pending ++ [char]) rest
      else
        (tokensFrom [] rest).bind fun later =>
          endWord pending
            (if isBlank char then later else .punct char :: later)

def tokens (text : List Char) : Option (List CToken) := tokensFrom [] text

def lbrace : Char := '\x7b'

def rbrace : Char := '\x7d'

def parseElements : List CToken → Option (List Nat × List CToken)
  | .number value :: .punct ',' :: rest =>
      (parseElements rest).map fun (values, after) => (value :: values, after)
  | .number value :: .punct char :: rest =>
      if char = rbrace then some ([value], rest) else none
  | .punct char :: rest => if char = rbrace then some ([], rest) else none
  | _ => none

structure CArray where
  name : List Char
  size : Nat
  elements : List Nat
  deriving DecidableEq, Repr

/-- `const unsigned short name[size] =` and the initializer in braces. -/
def parseTokens : List CToken → Option CArray
  | .word qualifier :: .word sign :: .word base :: .word name :: .punct '[' ::
      .number size :: .punct ']' :: .punct '=' :: .punct char :: rest =>
      if qualifier = "const".toList ∧ sign = "unsigned".toList ∧
          base = "short".toList ∧ char = lbrace then do
        let (elements, after) ← parseElements rest
        if after = [.punct ';'] then some ⟨name, size, elements⟩ else none
      else none
  | _ => none

def parseArray (text : List Char) : Option CArray :=
  (tokens text).bind parseTokens

/-! A word is read whole when something else follows it. -/

def EndsWord : List Char → Prop
  | [] => True
  | char :: _ => isWordChar char = false

theorem endsWord_cons {char : Char} (notWord : isWordChar char = false)
    (rest : List Char) : EndsWord (char :: rest) := notWord

theorem tokensFrom_word {word : List Char}
    (allWord : ∀ char ∈ word, isWordChar char = true) (pending rest : List Char) :
    tokensFrom pending (word ++ rest) = tokensFrom (pending ++ word) rest := by
  induction word generalizing pending with
  | nil => simp
  | cons char more ih =>
      rw [List.cons_append, tokensFrom, if_pos (allWord char List.mem_cons_self),
        ih fun later member => allWord later (List.mem_cons_of_mem _ member)]
      simp

theorem tokens_word {word rest : List Char} {token : CToken}
    (allWord : ∀ char ∈ word, isWordChar char = true)
    (read : wordToken word = some token) (ends : EndsWord rest) :
    tokens (word ++ rest) = (tokens rest).map (token :: ·) := by
  have nonempty : word ≠ [] := by
    rintro rfl
    cases read
  have ended : ∀ later, endWord word later = some (token :: later) := by
    intro later
    simp [endWord, nonempty, read]
  rw [tokens, tokensFrom_word allWord, List.nil_append]
  cases rest with
  | nil =>
      simp only [tokens, tokensFrom, ended]
      rfl
  | cons char rest =>
      have notWord : ¬ isWordChar char = true := by
        rw [show isWordChar char = false from ends]
        decide
      simp only [tokens, tokensFrom, if_neg notWord, ended]
      cases tokensFrom [] rest with
      | none => rfl
      | some later => simp [endWord]

theorem tokens_blank {char : Char} (blank : isBlank char = true)
    (notWord : isWordChar char = false) (rest : List Char) :
    tokens (char :: rest) = tokens rest := by
  simp only [tokens, tokensFrom, notWord, blank]
  cases tokensFrom [] rest with
  | none => rfl
  | some later => simp [endWord]

theorem tokens_punct {char : Char} (notBlank : isBlank char = false)
    (notWord : isWordChar char = false) (rest : List Char) :
    tokens (char :: rest) = (tokens rest).map (.punct char :: ·) := by
  simp only [tokens, tokensFrom, notWord, notBlank]
  cases tokensFrom [] rest with
  | none => rfl
  | some later => simp [endWord]

/-! Numbers as the generator writes them. -/

theorem digitChar_isWordChar {digit : Nat} (small : digit < 16) :
    isWordChar (Numeral.digitChar digit) = true := by
  have all : ∀ digit < 16, isWordChar (Numeral.digitChar digit) = true := by
    decide
  exact all digit small

theorem decimal_digitChar {digit : Nat} (positive : 0 < digit)
    (small : digit < 10) :
    Numeral.digitChar digit ≠ '0' ∧
      (Numeral.digitChar digit).isDigit = true := by
  have all : ∀ digit < 10, 0 < digit →
      Numeral.digitChar digit ≠ '0' ∧
        (Numeral.digitChar digit).isDigit = true := by
    decide
  exact all digit small positive

theorem readConstant_decimal {first : Char} (rest : List Char)
    (notZero : first ≠ '0') :
    readConstant (first :: rest) = Numeral.read 10 (first :: rest) := by
  unfold readConstant
  split
  all_goals simp_all

theorem wordToken_decimal (value : Nat) :
    wordToken (Numeral.text 10 value) = some (.number value) := by
  have read : Numeral.read 10 (Numeral.text 10 value) = some value :=
    Numeral.read_text (by decide) (by decide) value
  by_cases zero : value = 0
  · subst zero
    rfl
  · obtain ⟨digit, rest, same, positive, small⟩ :=
      Numeral.text_head (show 1 < 10 by decide) zero
    obtain ⟨notZero, isDigit⟩ := decimal_digitChar positive small
    rw [same] at read ⊢
    rw [wordToken, if_pos isDigit, readConstant_decimal rest notZero, read]
    rfl

theorem wordToken_hex (width value : Nat) :
    wordToken ('0' :: 'x' :: Numeral.padded 16 width value) =
      some (.number value) := by
  have read : Numeral.read 16 (Numeral.padded 16 width value) = some value :=
    Numeral.read_padded (by decide) (by decide) width value
  change (readConstant ('0' :: 'x' :: _)).map CToken.number = _
  rw [readConstant, read]
  rfl

theorem parseElements_commas (values : List Nat) (rest : List CToken) :
    parseElements (values.flatMap (fun value =>
        [.number value, .punct ',']) ++ .punct rbrace :: rest) =
      some (values, rest) := by
  induction values with
  | nil => simp [parseElements]
  | cons value more ih =>
      simp only [List.flatMap_cons, List.cons_append, List.nil_append,
        parseElements, ih, Option.map_some]

theorem parseTokens_declaration (name : List Char) (size : Nat)
    (values : List Nat) :
    parseTokens (.word "const".toList :: .word "unsigned".toList ::
        .word "short".toList :: .word name :: .punct '[' :: .number size ::
        .punct ']' :: .punct '=' :: .punct lbrace ::
        (values.flatMap (fun value => [.number value, .punct ',']) ++
          [.punct rbrace, .punct ';'])) =
      some ⟨name, size, values⟩ := by
  simp [parseTokens, parseElements_commas]

end Ch32v307.Image
