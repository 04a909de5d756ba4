import Mathlib.Data.Nat.Digits.Lemmas

namespace Ch32v307.Data.Numeral

/-! Numbers as text, in a base of at most sixteen. -/

def digitChar (digit : Nat) : Char :=
  if digit < 10 then Char.ofNat (48 + digit) else Char.ofNat (55 + digit)

def digitValue (char : Char) : Option Nat :=
  if '0' ≤ char ∧ char ≤ '9' then some (char.toNat - 48)
  else if 'A' ≤ char ∧ char ≤ 'F' then some (char.toNat - 55)
  else if 'a' ≤ char ∧ char ≤ 'f' then some (char.toNat - 87)
  else none

/-- The digits of a number, the most significant first. -/
def text (base value : Nat) : List Char :=
  if value = 0 then ['0']
  else (Nat.digits base value).reverse.map digitChar

def padded (base width value : Nat) : List Char :=
  List.replicate (width - (text base value).length) '0' ++ text base value

def readFrom (base : Nat) : Nat → List Char → Option Nat
  | value, [] => some value
  | value, char :: rest =>
      match digitValue char with
      | none => none
      | some digit =>
          if digit < base then readFrom base (value * base + digit) rest
          else none

/-- Every character has to be a digit of the base, and there has to be one. -/
def read (base : Nat) : List Char → Option Nat
  | [] => none
  | char :: rest => readFrom base 0 (char :: rest)

theorem digitValue_digitChar {digit : Nat} (small : digit < 16) :
    digitValue (digitChar digit) = some digit := by
  have all : ∀ digit < 16, digitValue (digitChar digit) = some digit := by
    decide
  exact all digit small

variable {base : Nat}

theorem readFrom_map (sixteen : base ≤ 16) (value : Nat) (digits : List Nat)
    (small : ∀ digit ∈ digits, digit < base) :
    readFrom base value (digits.map digitChar) =
      some (digits.foldl (fun total digit => total * base + digit) value) := by
  induction digits generalizing value with
  | nil => rfl
  | cons digit rest ih =>
      have bound := small digit List.mem_cons_self
      rw [List.map_cons, readFrom, digitValue_digitChar (by omega)]
      simp only [if_pos bound, List.foldl_cons]
      exact ih _ fun later member => small later (List.mem_cons_of_mem _ member)

theorem foldl_digits (base value : Nat) :
    (Nat.digits base value).reverse.foldl
      (fun total digit => total * base + digit) 0 = value := by
  rw [List.foldl_reverse]
  calc
    (Nat.digits base value).foldr (fun digit total => total * base + digit) 0 =
        (Nat.digits base value).foldr
          (fun digit total => digit + base * total) 0 := by
      simp only [Nat.mul_comm, Nat.add_comm]
    _ = Nat.ofDigits base (Nat.digits base value) :=
      (Nat.ofDigits_eq_foldr ..).symm
    _ = value := Nat.ofDigits_digits base value

theorem text_eq_map (large : 1 < base) (value : Nat) :
    ∃ digits, text base value = digits.map digitChar ∧ digits ≠ [] ∧
      (∀ digit ∈ digits, digit < base) ∧
      digits.foldl (fun total digit => total * base + digit) 0 = value := by
  unfold text
  by_cases zero : value = 0
  · rw [if_pos zero]
    refine ⟨[0], rfl, List.cons_ne_nil _ _, ?_, ?_⟩
    · simp
      omega
    · simp [zero]
  · rw [if_neg zero]
    refine ⟨_, rfl, ?_, ?_, foldl_digits base value⟩
    · rw [Ne, List.reverse_eq_nil_iff]
      exact Nat.digits_ne_nil_iff_ne_zero.mpr zero
    · intro digit member
      exact Nat.digits_lt_base large (List.mem_reverse.mp member)

theorem padded_eq_map (large : 1 < base) (width value : Nat) :
    ∃ digits, padded base width value = digits.map digitChar ∧ digits ≠ [] ∧
      (∀ digit ∈ digits, digit < base) ∧
      digits.foldl (fun total digit => total * base + digit) 0 = value := by
  obtain ⟨digits, same, nonempty, small, total⟩ := text_eq_map large value
  refine ⟨List.replicate (width - (text base value).length) 0 ++ digits,
    ?_, ?_, ?_, ?_⟩
  · rw [List.map_append, ← same, List.map_replicate]
    rfl
  · simp [nonempty]
  · intro digit member
    rcases List.mem_append.mp member with zeros | member
    · rw [(List.mem_replicate.mp zeros).2]
      omega
    · exact small digit member
  · have zeros : ∀ count, (List.replicate count 0).foldl
        (fun total digit => total * base + digit) 0 = 0 := by
      intro count
      induction count with
      | zero => rfl
      | succ count ih => simpa [List.replicate_succ] using ih
    rw [List.foldl_append, zeros, total]

theorem read_map (sixteen : base ≤ 16) {digits : List Nat}
    (nonempty : digits ≠ []) (small : ∀ digit ∈ digits, digit < base) :
    read base (digits.map digitChar) =
      some (digits.foldl (fun total digit => total * base + digit) 0) := by
  cases digits with
  | nil => exact absurd rfl nonempty
  | cons digit rest => exact readFrom_map sixteen 0 (digit :: rest) small

theorem read_text (large : 1 < base) (sixteen : base ≤ 16) (value : Nat) :
    read base (text base value) = some value := by
  obtain ⟨digits, same, nonempty, small, total⟩ := text_eq_map large value
  rw [same, read_map sixteen nonempty small, total]

theorem read_padded (large : 1 < base) (sixteen : base ≤ 16)
    (width value : Nat) : read base (padded base width value) = some value := by
  obtain ⟨digits, same, nonempty, small, total⟩ :=
    padded_eq_map large width value
  rw [same, read_map sixteen nonempty small, total]

theorem text_head (large : 1 < base) {value : Nat} (positive : value ≠ 0) :
    ∃ digit rest, text base value = digitChar digit :: rest ∧
      0 < digit ∧ digit < base := by
  have nonempty : Nat.digits base value ≠ [] :=
    Nat.digits_ne_nil_iff_ne_zero.mpr positive
  have leading := Nat.getLast_digit_ne_zero base positive
  have bound := Nat.digits_lt_base large (List.getLast_mem nonempty)
  have split := List.dropLast_append_getLast nonempty
  refine ⟨(Nat.digits base value).getLast nonempty,
    (Nat.digits base value).dropLast.reverse.map digitChar, ?_,
    Nat.pos_of_ne_zero leading, bound⟩
  rw [text, if_neg positive]
  conv_lhs => rw [← split]
  simp

end Ch32v307.Data.Numeral
