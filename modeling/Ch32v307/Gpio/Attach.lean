import Ch32v307.Gpio.Isolation

namespace Ch32v307.Gpio

open Data

/-! Attaching: when a registration is accepted, and what the table holds then. -/

/-- The pin exists: its number is that of an entry of `pins[]`. -/
structure Listed (pin : Int32) (index : PinIndex) : Prop where
  natural : 0 ≤ pin.toInt
  entry : pins[pin.toInt.toNat]? = some (some index)

namespace PinIrqHdr

def Free (entry : PinIrqHdr) : Prop := entry.pin = -1

/-- The entry is exactly this registration. -/
structure Holds (entry : PinIrqHdr) (pin : Int32) (mode hdr args : UInt32) :
    Prop where
  pin : entry.pin.toInt = pin.toInt
  mode : entry.mode.toNat = mode.toNat
  hdr : entry.hdr = hdr
  args : entry.args = args

end PinIrqHdr

/-- What is promised of one call of attach. -/
structure AttachLaw (driver : Driver) (pin : Int32) (mode hdr args : UInt32) :
    Prop where
  accepts : (ch32PinAttachIrq pin mode hdr args driver).1 = .eok ↔
    ∃ index, Listed pin index ∧
      ((driver.pinIrqHdrTab index.gpioIndex).Free ∨
        (driver.pinIrqHdrTab index.gpioIndex).Holds pin mode hdr args)
  enters : (ch32PinAttachIrq pin mode hdr args driver).1 = .eok →
    ∀ index, Listed pin index →
      ((ch32PinAttachIrq pin mode hdr args driver).2.pinIrqHdrTab
        index.gpioIndex).Holds pin mode hdr args
  refuses : (ch32PinAttachIrq pin mode hdr args driver).1 ≠ .eok →
    (ch32PinAttachIrq pin mode hdr args driver).2.pinIrqHdrTab =
      driver.pinIrqHdrTab
  others : ∀ index, Listed pin index → ∀ line, line ≠ index.gpioIndex →
    (ch32PinAttachIrq pin mode hdr args driver).2.pinIrqHdrTab line =
      driver.pinIrqHdrTab line
  again : (ch32PinAttachIrq pin mode hdr args driver).1 = .eok →
    ch32PinAttachIrq pin mode hdr args
        (ch32PinAttachIrq pin mode hdr args driver).2 =
      (.eok, (ch32PinAttachIrq pin mode hdr args driver).2)
  restores : (ch32PinAttachIrq pin mode hdr args driver).1 = .eok →
    (ch32PinAttachIrq pin mode hdr args
        (ch32PinDettachIrq pin
          (ch32PinAttachIrq pin mode hdr args driver).2).2).2.pinIrqHdrTab =
      (ch32PinAttachIrq pin mode hdr args driver).2.pinIrqHdrTab

/-- The call names no pin, or finds another registration on the line, or
its pin exists and its mode fits the 16 bits of the entry. -/
def AttachFits (driver : Driver) (pin : Int32) (mode hdr args : UInt32) : Prop :=
  getPin (lowByte pin) = none ∨
    (∃ index, getPin (lowByte pin) = some index ∧
      ¬ (driver.pinIrqHdrTab index.gpioIndex).Free ∧
      ¬ (driver.pinIrqHdrTab index.gpioIndex).Holds pin mode hdr args) ∨
    (∃ index, Listed pin index) ∧ mode.toNat < 65536

section Attach

variable {driver : Driver} {pin : Int32} {index : PinIndex}
  {mode hdr args : UInt32}

theorem Listed.small (listed : Listed pin index) : pin.toInt < 101 := by
  obtain ⟨inside, -⟩ := List.getElem?_eq_some_iff.mp listed.entry
  change pin.toInt.toNat < 101 at inside
  have natural := listed.natural
  omega

theorem Listed.named (listed : Listed pin index) :
    getPin (lowByte pin) = some index := by
  obtain ⟨inside, -⟩ := List.getElem?_eq_some_iff.mp listed.entry
  have byte : (lowByte pin).toNat = pin.toInt.toNat := by
    have natural := listed.natural
    have small := listed.small
    have word : pin.toInt = pin.toBitVec.toInt := rfl
    rw [BitVec.toInt_eq_toNat_cond] at word
    have bound := pin.toBitVec.isLt
    change pin.toBitVec.toNat % 256 = _
    split at word
    · omega
    · omega
  rw [getPin, byte, if_pos inside, listed.entry]
  rfl

theorem Listed.stored (listed : Listed pin index) :
    pin.toInt16.toInt = pin.toInt := by
  have natural := listed.natural
  have small := listed.small
  rw [Int32.toInt_toInt16]
  exact Int.bmod_eq_of_le (by omega) (by omega)

theorem PinIrqHdr.Holds.taken {entry : PinIrqHdr}
    (holds : entry.Holds pin mode hdr args)
    (named : getPin (lowByte pin) = some index) : ¬ entry.Free := by
  intro free
  have different : pin ≠ -1 := by
    rintro rfl
    cases named
  apply different
  apply Int32.toInt_inj.mp
  rw [← holds.pin, free]
  rfl

/-- The four-field comparison, made in the wider types. -/
theorem holds_iff (entry : PinIrqHdr) :
    entry.Holds pin mode hdr args ↔
      entry.pin.toInt32 = pin ∧ entry.hdr = hdr ∧
        entry.mode.toUInt32 = mode ∧ entry.args = args := by
  constructor
  · rintro ⟨samePin, sameMode, sameHdr, sameArgs⟩
    exact ⟨Int32.toInt_inj.mp ((Int16.toInt_toInt32 _).trans samePin), sameHdr,
      UInt32.toNat_inj.mp ((UInt16.toNat_toUInt32 _).trans sameMode), sameArgs⟩
  · rintro ⟨rfl, sameHdr, rfl, sameArgs⟩
    exact ⟨(Int16.toInt_toInt32 _).symm, (UInt16.toNat_toUInt32 _).symm, sameHdr,
      sameArgs⟩

/-! What attach does on each kind of line. -/

theorem attach_holds (named : getPin (lowByte pin) = some index)
    (holds : (driver.pinIrqHdrTab index.gpioIndex).Holds pin mode hdr args) :
    ch32PinAttachIrq pin mode hdr args driver = (.eok, driver) := by
  simp only [ch32PinAttachIrq, named, irqIndex_pin,
    if_pos ((holds_iff _).mp holds)]

theorem attach_busy (named : getPin (lowByte pin) = some index)
    (taken : ¬ (driver.pinIrqHdrTab index.gpioIndex).Free)
    (different : ¬ (driver.pinIrqHdrTab index.gpioIndex).Holds pin mode hdr args) :
    ch32PinAttachIrq pin mode hdr args driver = (.ebusy, driver) := by
  have other := mt (holds_iff _).mpr different
  simp only [ch32PinAttachIrq, named, irqIndex_pin, if_neg other]
  exact if_pos taken

theorem attach_ok (named : getPin (lowByte pin) = some index)
    (ready : (driver.pinIrqHdrTab index.gpioIndex).Free ∨
      (driver.pinIrqHdrTab index.gpioIndex).Holds pin mode hdr args) :
    (ch32PinAttachIrq pin mode hdr args driver).1 = .eok := by
  rcases ready with free | holds
  · rw [attach_free named free]
  · rw [attach_holds named holds]

/-- The entry a free line takes is the registration when the mode fits. -/
theorem entered_holds (listed : Listed pin index) :
    (⟨pin.toInt16, mode.toUInt16, hdr, args⟩ : PinIrqHdr).Holds pin mode hdr
        args ↔ mode.toNat < 65536 := by
  constructor
  · intro holds
    rw [← holds.mode]
    exact UInt16.toNat_lt _
  · intro fits
    exact ⟨listed.stored, (UInt32.toNat_toUInt16 _).trans (Nat.mod_eq_of_lt fits),
      rfl, rfl⟩

/-- From an entry that is the registration, the owner's detach and the same
attach lead back. -/
theorem dettach_attach (named : getPin (lowByte pin) = some index)
    (entry : driver.pinIrqHdrTab index.gpioIndex =
      ⟨pin.toInt16, mode.toUInt16, hdr, args⟩) :
    (ch32PinAttachIrq pin mode hdr args
        (ch32PinDettachIrq pin driver).2).2.pinIrqHdrTab =
      driver.pinIrqHdrTab := by
  have taken : (driver.pinIrqHdrTab index.gpioIndex).pin ≠ -1 := by
    rw [entry]
    exact storedPin_ne named
  rw [dettach_named named, if_neg taken, attach_free named]
  · dsimp only
    rw [Function.update_idem, ← entry, Function.update_eq_self]
  · dsimp only
    rw [Function.update_self]
    rfl

theorem PinIrqHdr.Holds.entry {entry : PinIrqHdr}
    (holds : entry.Holds pin mode hdr args) :
    entry = ⟨pin.toInt16, mode.toUInt16, hdr, args⟩ := by
  obtain ⟨rfl, rfl, rfl, rfl⟩ := (holds_iff entry).mp holds
  rw [Int16.toInt16_toInt32, UInt16.toUInt16_toUInt32]

/-! The law on each kind of line. -/

theorem law_unnamed (unnamed : getPin (lowByte pin) = none) :
    AttachLaw driver pin mode hdr args := by
  have refused := attach_unnamed unnamed mode hdr args driver
  have failed : (ch32PinAttachIrq pin mode hdr args driver).1 ≠ .eok := by
    rw [refused]
    exact RtErr.noConfusion
  have unlisted : ∀ index, ¬ Listed pin index := by
    intro index listed
    rw [listed.named] at unnamed
    cases unnamed
  exact
    { accepts := iff_of_false failed fun ⟨index, listed, _⟩ =>
        unlisted index listed
      enters := fun ok => absurd ok failed
      refuses := fun _ => by rw [refused]
      others := fun index listed => absurd listed (unlisted index)
      again := fun ok => absurd ok failed
      restores := fun ok => absurd ok failed }

theorem law_busy (named : getPin (lowByte pin) = some index)
    (taken : ¬ (driver.pinIrqHdrTab index.gpioIndex).Free)
    (different : ¬ (driver.pinIrqHdrTab index.gpioIndex).Holds pin mode hdr args) :
    AttachLaw driver pin mode hdr args := by
  have refused := attach_busy named taken different
  have failed : (ch32PinAttachIrq pin mode hdr args driver).1 ≠ .eok := by
    rw [refused]
    exact RtErr.noConfusion
  refine
    { accepts := iff_of_false failed ?_
      enters := fun ok => absurd ok failed
      refuses := fun _ => by rw [refused]
      others := fun _ _ _ _ => by rw [refused]
      again := fun ok => absurd ok failed
      restores := fun ok => absurd ok failed }
  rintro ⟨other, listed, ready⟩
  obtain rfl := Option.some.inj (named.symm.trans listed.named)
  exact ready.elim taken different

/-- One law for both ways to succeed: afterwards the entry is the registration,
and the other lines are as they were. -/
theorem law_accepted (listed : Listed pin index) {later : Driver}
    (ready : (driver.pinIrqHdrTab index.gpioIndex).Free ∨
      (driver.pinIrqHdrTab index.gpioIndex).Holds pin mode hdr args)
    (accepted : ch32PinAttachIrq pin mode hdr args driver = (.eok, later))
    (entered : (later.pinIrqHdrTab index.gpioIndex).Holds pin mode hdr args)
    (others : ∀ line, line ≠ index.gpioIndex →
      later.pinIrqHdrTab line = driver.pinIrqHdrTab line) :
    AttachLaw driver pin mode hdr args := by
  have only {other : PinIndex} (same : Listed pin other) : index = other :=
    Option.some.inj (listed.named.symm.trans same.named)
  constructor
  · rw [accepted]
    exact iff_of_true rfl ⟨index, listed, ready⟩
  · intro _ other same
    rw [accepted, ← only same]
    exact entered
  · rw [accepted]
    exact fun failed => absurd rfl failed
  · intro other same
    rw [accepted, ← only same]
    exact others
  · rw [accepted]
    exact fun _ => attach_holds listed.named entered
  · rw [accepted]
    exact fun _ => dettach_attach listed.named entered.entry

/-- A pin that is not listed must not be accepted. -/
theorem listed_of_law (law : AttachLaw driver pin mode hdr args)
    (named : getPin (lowByte pin) = some index)
    (ready : (driver.pinIrqHdrTab index.gpioIndex).Free ∨
      (driver.pinIrqHdrTab index.gpioIndex).Holds pin mode hdr args) :
    Listed pin index := by
  obtain ⟨other, listed, -⟩ := law.accepts.mp (attach_ok named ready)
  obtain rfl := Option.some.inj (named.symm.trans listed.named)
  exact listed

theorem mode_of_law (law : AttachLaw driver pin mode hdr args)
    (listed : Listed pin index)
    (ready : (driver.pinIrqHdrTab index.gpioIndex).Free ∨
      (driver.pinIrqHdrTab index.gpioIndex).Holds pin mode hdr args) :
    mode.toNat < 65536 := by
  have entered := law.enters (attach_ok listed.named ready) index listed
  rw [← entered.mode]
  exact UInt16.toNat_lt _

theorem attachLaw_iff (driver : Driver) (pin : Int32) (mode hdr args : UInt32) :
    AttachLaw driver pin mode hdr args ↔ AttachFits driver pin mode hdr args := by
  constructor
  · intro law
    cases named : getPin (lowByte pin) with
    | none => exact Or.inl named
    | some index =>
        by_cases ready : (driver.pinIrqHdrTab index.gpioIndex).Free ∨
            (driver.pinIrqHdrTab index.gpioIndex).Holds pin mode hdr args
        · have listed := listed_of_law law named ready
          exact Or.inr (Or.inr ⟨⟨index, listed⟩, mode_of_law law listed ready⟩)
        · rw [not_or] at ready
          exact Or.inr (Or.inl ⟨index, named, ready⟩)
  · rintro (unnamed | ⟨index, named, taken, different⟩ | ⟨⟨index, listed⟩, fits⟩)
    · exact law_unnamed unnamed
    · exact law_busy named taken different
    · by_cases free : (driver.pinIrqHdrTab index.gpioIndex).Free
      · refine law_accepted listed (Or.inl free)
          (attach_free listed.named free mode hdr args) ?_ ?_
        · dsimp only
          rw [Function.update_self]
          exact (entered_holds listed).mpr fits
        · intro line other
          exact Function.update_of_ne other ..
      · by_cases holds :
            (driver.pinIrqHdrTab index.gpioIndex).Holds pin mode hdr args
        · exact law_accepted listed (Or.inr holds)
            (attach_holds listed.named holds) holds (fun _ _ => rfl)
        · exact law_busy listed.named free holds

end Attach

/-! Runs of calls on any pins. -/

def PinCall.on (driver : Driver) (call : Int32 × PinCall) : Driver :=
  call.2.run call.1 driver

/-- The law, where the call is an attach. -/
def LawfulCall (driver : Driver) : Int32 × PinCall → Prop
  | (pin, .attachIrq mode hdr args) => AttachLaw driver pin mode hdr args
  | _ => True

def FittingCall (driver : Driver) : Int32 × PinCall → Prop
  | (pin, .attachIrq mode hdr args) => AttachFits driver pin mode hdr args
  | _ => True

theorem lawfulCall_iff (driver : Driver) (call : Int32 × PinCall) :
    LawfulCall driver call ↔ FittingCall driver call := by
  obtain ⟨pin, call⟩ := call
  cases call with
  | attachIrq mode hdr args => exact attachLaw_iff driver pin mode hdr args
  | pinMode mode => exact Iff.rfl
  | pinWrite value => exact Iff.rfl
  | dettachIrq => exact Iff.rfl
  | irqEnable enabled unset => exact Iff.rfl

/-- In a run from any table every attach keeps the law exactly when every
attach fits. -/
theorem attaches_lawful_iff (driver : Driver) (calls : List (Int32 × PinCall)) :
    Run.Guarded PinCall.on LawfulCall driver calls ↔
      Run.Guarded PinCall.on FittingCall driver calls :=
  Run.guarded_congr lawfulCall_iff driver calls

/-- 260 is 4 in its low byte, and the mode 65536 is 0 in the entry. -/
theorem attach_wide_unlawful :
    ¬ Run.Guarded PinCall.on LawfulCall .reset [(260, .attachIrq 0 1 0)] ∧
      ¬ Run.Guarded PinCall.on LawfulCall .reset
        [(4, .attachIrq 65536 1 0)] := by
  constructor
  · rintro ⟨law, -⟩
    have listed : Listed 260 ⟨4, .e, 5⟩ :=
      listed_of_law law (by decide) (Or.inl rfl)
    have inside := listed.small
    exact absurd inside (by decide)
  · rintro ⟨law, -⟩
    have listed : Listed 4 ⟨4, .e, 5⟩ := ⟨by decide, rfl⟩
    have fits := mode_of_law law listed (Or.inl rfl)
    exact absurd fits (by decide)

end Ch32v307.Gpio
