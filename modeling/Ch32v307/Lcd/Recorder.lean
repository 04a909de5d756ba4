import Ch32v307.Data.Word
import Ch32v307.Lcd.Init

namespace Ch32v307.Lcd

/-! A bus that writes down everything that happens on it and answers loads
from a prepared list. What a driver call does to it is what the call does to
any panel that would answer the same. -/

inductive BusEvent where
  | store (message : BusMsg)
  | load (value : UInt16)
  | delay (call : Kernel.DelayCall)
  deriving DecidableEq, Repr

structure Recorder where
  replies : List UInt16
  log : List BusEvent

def Recorder.start (replies : List UInt16) : Recorder := ⟨replies, []⟩

def Recorder.note (recorder : Recorder) (event : BusEvent) : Recorder :=
  { recorder with log := recorder.log ++ [event] }

def Recorder.load (recorder : Recorder) : UInt16 × Recorder :=
  match recorder.replies with
  | [] => (0, recorder.note (.load 0))
  | value :: rest => (value, { recorder with replies := rest }.note (.load value))

def recorderBus : Bus Recorder where
  store recorder message := recorder.note (.store message)
  load := Recorder.load
  delay recorder call := recorder.note (.delay call)

@[simp] theorem Recorder.start_log (replies : List UInt16) :
    (Recorder.start replies).log = [] := rfl

theorem recorderBus_load_log (recorder : Recorder) :
    (recorderBus.load recorder).2.log =
      recorder.log ++ [.load (recorderBus.load recorder).1] := by
  simp only [recorderBus, Recorder.load]
  cases recorder.replies <;> rfl

@[simp] theorem recorderBus_send_log (recorder : Recorder)
    (messages : List BusMsg) :
    (recorderBus.send recorder messages).log =
      recorder.log ++ messages.map .store := by
  induction messages generalizing recorder with
  | nil => simp [Bus.send]
  | cons message rest ih =>
      calc
        (recorderBus.send recorder (message :: rest)).log =
            (recorderBus.send (recorder.note (.store message)) rest).log := rfl
        _ = recorder.log ++ (message :: rest).map .store := by
            rw [ih]
            simp [Recorder.note]

theorem store_map_injective {first second : List BusMsg}
    (same : first.map BusEvent.store = second.map BusEvent.store) :
    first = second :=
  List.map_injective_iff.mpr (fun _ _ equal => BusEvent.store.inj equal) same

/-! What a point read does on the bus. -/

theorem lcdReadPoint_log {dev : LcdDev} {x y : UInt16}
    (inside : x < dev.width ∧ y < dev.height) (recorder : Recorder) :
    ∃ value later,
      (lcdReadPoint recorderBus dev x y recorder).2.log =
        recorder.log ++ (readAddress dev x y).map .store ++
          .load value :: later := by
  have within : ¬ (x ≥ dev.width ∨ y ≥ dev.height) := by
    simpa only [ge_iff_le, ← UInt16.not_lt, not_or, not_not] using inside
  rw [lcdReadPoint, if_neg within]
  let addressed := recorderBus.send recorder (readAddress dev x y)
  let first := recorderBus.load addressed
  let second := recorderBus.load first.2
  let third := recorderBus.load second.2
  have firstLog : first.2.log = recorder.log ++
      (readAddress dev x y).map .store ++ [.load first.1] := by
    rw [recorderBus_load_log, recorderBus_send_log]
  have secondLog := recorderBus_load_log first.2
  have thirdLog := recorderBus_load_log second.2
  refine ⟨first.1, if dev.id = 0x1963 then []
    else if dev.id = 0x7796 then [.load second.1]
    else [.load second.1, .load third.1], ?_⟩
  dsimp only
  split_ifs
  · exact firstLog
  · rw [secondLog, firstLog, List.append_assoc]
    rfl
  · rw [thirdLog, secondLog, firstLog, List.append_assoc, List.append_assoc]
    rfl

end Ch32v307.Lcd
