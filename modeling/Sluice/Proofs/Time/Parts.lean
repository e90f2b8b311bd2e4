import Sluice.Proofs.Outcome
import Sluice.Time.Reading

/-!
# Parts of the time

The parts of a time of day, the offset that it is told in and the timestamp, as fields hold them.
Storing a number adds the parts that it stands for; a part that was stored before must be the same.
-/

set_option autoImplicit false

namespace Sluice

inductive ClockPart where
  /-- Zero before noon and one after it. -/
  | half (value : Nat)
  | hourOfHalf (value : Nat)
  | minute (value : Nat)
  | second (value : Nat)
  | nanos (value : Nat)
  | offset (seconds : Int)
  | timestamp (seconds : Int)
  deriving DecidableEq, Repr

inductive ClockKind where
  | half
  | hourOfHalf
  | minute
  | second
  | nanos
  | offset
  | timestamp
  deriving DecidableEq, Repr

def ClockPart.kind : ClockPart → ClockKind
  | half _ => .half
  | hourOfHalf _ => .hourOfHalf
  | minute _ => .minute
  | second _ => .second
  | nanos _ => .nanos
  | offset _ => .offset
  | timestamp _ => .timestamp

def ClockPart.InRange : ClockPart → Prop
  | half value => value ≤ 1
  | hourOfHalf value => value ≤ 11
  | minute value => value ≤ 59
  | second value => value ≤ 60
  | nanos value => value ≤ 999999999
  | _ => True

namespace DateFields

def Holds (fields : DateFields) : ClockPart → Prop
  | .half value => fields.hourDiv12 = some value
  | .hourOfHalf value => fields.hourMod12 = some value
  | .minute value => fields.minute = some value
  | .second value => fields.second = some value
  | .nanos value => fields.nanosecond = some value
  | .offset seconds => fields.offset = some seconds
  | .timestamp seconds => fields.timestamp = some seconds

theorem empty_holds_nothing (part : ClockPart) : ¬ empty.Holds part := by
  cases part <;> exact nofun

structure Gains (given : ClockPart → Prop) (before after : DateFields) : Prop where
  holds_iff : ∀ part, after.Holds part ↔ before.Holds part ∨ given part
  inRange : ∀ part, given part → part.InRange

def Has (fields : DateFields) (kind : ClockKind) : Prop :=
  ∃ part, part.kind = kind ∧ fields.Holds part

def InRange (fields : DateFields) : Prop := ∀ part, fields.Holds part → part.InRange

section Gains

variable {before middle after : DateFields} {first second : ClockPart → Prop}

theorem Gains.nothing (same : ∀ part, after.Holds part ↔ before.Holds part) :
    Gains (fun _ => False) before after where
  holds_iff part := by rw [same, or_false]
  inRange _ := False.elim

theorem Gains.trans (one : Gains first before middle) (two : Gains second middle after) :
    Gains (fun part => first part ∨ second part) before after where
  holds_iff part := by rw [two.holds_iff, one.holds_iff, or_assoc]
  inRange part given := given.elim (one.inRange part) (two.inRange part)

theorem Gains.congr (one : Gains first before after) (same : ∀ part, second part ↔ first part) :
    Gains second before after where
  holds_iff part := by rw [one.holds_iff, same]
  inRange part given := one.inRange part ((same part).1 given)

theorem Gains.holds (gains : Gains first before after) {part : ClockPart}
    (held : before.Holds part) : after.Holds part := (gains.holds_iff part).2 (.inl held)

theorem Gains.has (gains : Gains first before after) {kind : ClockKind} (has : before.Has kind) :
    after.Has kind := by
  obtain ⟨part, same, held⟩ := has
  exact ⟨part, same, gains.holds held⟩

theorem Gains.after_inRange (gains : Gains first before after) (inRange : before.InRange) :
    after.InRange := by
  intro part held
  exact ((gains.holds_iff part).1 held).elim (inRange part) (gains.inRange part)

end Gains

/-! ## Storing a part -/

theorem agree_eq_ok {α : Type} [DecidableEq α] {old result : Option α} {new : α} :
    agree old new = .ok result ↔ (old = none ∨ old = some new) ∧ result = some new := by
  cases old with
  | none => simp [agree, eq_comm]
  | some value =>
      by_cases same : value = new
      · simp [agree, same, eq_comm]
      · simp [agree, same]

theorem within_eq_ok {low high : Nat} {value : Int} {result : Nat} :
    within low high value = .ok result ↔
      ((low : Int) ≤ value ∧ value ≤ high) ∧ result = value.toNat := by
  rw [within]
  split
  · next inside => simp [inside, eq_comm]
  · next outside => simp [outside]

def SameClock (before after : DateFields) : Prop :=
  (after.hourDiv12, after.hourMod12, after.minute, after.second, after.nanosecond, after.offset,
      after.timestamp) =
    (before.hourDiv12, before.hourMod12, before.minute, before.second, before.nanosecond,
      before.offset, before.timestamp)

theorem SameClock.gains {before after : DateFields} (same : SameClock before after) :
    Gains (fun _ => False) before after := by
  simp only [SameClock, Prod.mk.injEq] at same
  refine .nothing fun part => ?_
  cases part <;> simp only [Holds, same]

variable {value : Int} {before after : DateFields}

theorem sameClock_setWeekday {value : Nat} (stores : before.setWeekday value = .ok after) :
    SameClock before after := by
  obtain ⟨_, _, same⟩ := Outcome.bind_eq_ok.1 stores
  cases same
  rfl

end DateFields

open DateFields

def NumberPart.gives : NumberPart → Int → List ClockPart
  | hour, value => [.half (value.toNat / 12), .hourOfHalf (value.toNat % 12)]
  | hour12, value => [.hourOfHalf (value.toNat % 12)]
  | minute, value => [.minute value.toNat]
  | second, value => [.second value.toNat]
  | nanosecond, value => [.nanos value.toNat]
  | timestamp, value => [.timestamp value]
  | _, _ => []

namespace NumberPart

variable {value : Int} {before after : DateFields}

/-- A number that belongs to the date leaves the time of day alone. -/
theorem sameClock_store (part : NumberPart) (dated : ∀ value, part.gives value = [])
    (stores : part.store before value = .ok after) : SameClock before after := by
  cases part with
  | hour => cases dated 0
  | hour12 => cases dated 0
  | minute => cases dated 0
  | second => cases dated 0
  | nanosecond => cases dated 0
  | timestamp => cases dated 0
  | yearDiv100 =>
      rw [store, setYearDiv100] at stores
      split at stores
      · cases stores
      · obtain ⟨_, _, stores⟩ := Outcome.bind_eq_ok.1 stores
        obtain ⟨_, _, same⟩ := Outcome.bind_eq_ok.1 stores
        cases same
        rfl
  | weekdayFromSunday =>
      obtain ⟨_, _, stores⟩ := Outcome.bind_eq_ok.1 stores
      exact sameClock_setWeekday stores
  | weekdayFromMonday =>
      obtain ⟨_, _, stores⟩ := Outcome.bind_eq_ok.1 stores
      exact sameClock_setWeekday stores
  | _ =>
      obtain ⟨_, _, stores⟩ := Outcome.bind_eq_ok.1 stores
      obtain ⟨_, _, same⟩ := Outcome.bind_eq_ok.1 stores
      cases same
      rfl

/-- A part that was not held before, or was and is held again. -/
theorem store_gains (part : NumberPart) (stores : part.store before value = .ok after) :
    Gains (· ∈ part.gives value) before after := by
  cases part with
  | hour =>
      simp only [store, setHour, Outcome.bind_eq_ok, within_eq_ok, agree_eq_ok] at stores
      obtain ⟨_, ⟨inside, rfl⟩, _, ⟨oldHalf, rfl⟩, _, ⟨oldHour, rfl⟩, same⟩ := stores
      cases same
      refine ⟨fun part => ?_, ?_⟩
      · cases part <;> simp only [Holds, gives, List.mem_cons] <;> grind
      · simp only [gives, List.forall_mem_cons, ClockPart.InRange]
        refine ⟨?_, ?_, nofun⟩ <;> omega
  | hour12 | minute | second | nanosecond =>
      simp only [store, setHour12, setMinute, setSecond, setNanosecond, Outcome.bind_eq_ok,
        within_eq_ok, agree_eq_ok] at stores
      obtain ⟨_, ⟨inside, rfl⟩, _, ⟨old, rfl⟩, same⟩ := stores
      cases same
      refine ⟨fun part => ?_, ?_⟩
      · cases part <;> simp only [Holds, gives, List.mem_cons] <;> grind
      · simp only [gives, List.forall_mem_cons, ClockPart.InRange]
        exact ⟨by omega, nofun⟩
  | timestamp =>
      simp only [store, setTimestamp, Outcome.bind_eq_ok, agree_eq_ok] at stores
      obtain ⟨_, ⟨old, rfl⟩, same⟩ := stores
      cases same
      refine ⟨fun part => ?_, ?_⟩
      · cases part <;> simp only [Holds, gives, List.mem_singleton] <;> grind
      · simp [gives, ClockPart.InRange]
  | _ =>
      refine (sameClock_store _ (fun _ => rfl) stores).gains.congr fun part => ?_
      simp [gives]

end NumberPart

namespace DateFields

variable {before after : DateFields}

theorem setHalfDay_gains {afternoon : Bool} (stores : before.setHalfDay afternoon = .ok after) :
    Gains (· = .half (if afternoon then 1 else 0)) before after := by
  simp only [setHalfDay, Outcome.bind_eq_ok, agree_eq_ok] at stores
  obtain ⟨_, ⟨old, rfl⟩, same⟩ := stores
  cases same
  refine ⟨fun part => ?_, ?_⟩
  · cases part <;> simp only [Holds] <;> grind
  · rintro _ rfl
    cases afternoon <;> simp [ClockPart.InRange]

theorem setOffset_gains {seconds : Int} (stores : before.setOffset seconds = .ok after) :
    Gains (· = .offset seconds) before after := by
  simp only [setOffset, fits32, Outcome.bind_eq_ok, agree_eq_ok] at stores
  obtain ⟨_, fits, _, ⟨old, rfl⟩, same⟩ := stores
  cases same
  split at fits
  · cases fits
    refine ⟨fun part => ?_, ?_⟩
    · cases part <;> simp only [Holds] <;> grind
    · rintro _ rfl
      trivial
  · cases fits

end DateFields

end Sluice
