import Sluice.Proofs.Time.Parts

/-!
# What a format reads of the time

The parts of the time are gathered from the items of a format.  What an item reads depends on the
text in front of it alone, and the fields hold in the end what some item has read, and nothing else.
-/

set_option autoImplicit false

namespace Sluice

open DateFields

/-! ## What an item reads -/

inductive FormatItem.Reads : FormatItem → List Char → ClockPart → Prop where
  | number {numberPart : NumberPart} {text rest : List Char} {value : Int} {part : ClockPart}
      (scans : numberPart.scan text = .ok (value, rest)) (given : part ∈ numberPart.gives value) :
      Reads (.number numberPart) text part
  | halfDay {text rest : List Char} {afternoon : Bool}
      (scans : DateScan.halfDay text = .ok (afternoon, rest)) :
      Reads (.named .halfDay) text (.half (if afternoon then 1 else 0))
  | fraction {text rest : List Char} {value : Nat}
      (scans : TimeScan.nanoseconds text = .ok (value, rest)) :
      Reads (.named .fraction) ('.' :: text) (.nanos value)
  | fixedFraction {text rest : List Char} {digits value : Nat}
      (scans : TimeScan.fixedNanoseconds digits text = .ok (value, rest)) :
      Reads (.named (.fixedFraction digits)) ('.' :: text) (.nanos value)
  | bareFraction {text rest : List Char} {digits value : Nat}
      (scans : TimeScan.fixedNanoseconds digits text = .ok (value, rest)) :
      Reads (.named (.bareFraction digits)) text (.nanos value)
  | offset {text rest : List Char} {seconds : Int}
      (scans : TimeScan.offset .free false false (text.dropWhile isBlank) = .ok (seconds, rest)) :
      Reads (.named .offset) text (.offset seconds)
  | looseOffset {text rest : List Char} {seconds : Int}
      (scans : TimeScan.offset .free true true (text.dropWhile isBlank) = .ok (seconds, rest)) :
      Reads (.named .looseOffset) text (.offset seconds)
  /-- A whole date and time reads what it adds to any fields. -/
  | internetTime {text rest : List Char} {before after : DateFields} {part : ClockPart}
      (scans : DateScan.internetTime before text = .ok (after, rest)) (held : after.Holds part)
      (new : ¬ before.Holds part) : Reads (.named .internetTime) text part

/-- A named part but for a whole date and time reads one thing only. -/
theorem FormatItem.Reads.iff_eq {name : NamedPart} {text : List Char} {one : ClockPart}
    (reads : Reads (.named name) text one) (single : name ≠ .internetTime) (part : ClockPart) :
    Reads (.named name) text part ↔ part = one := by
  refine ⟨fun other => ?_, fun same => same ▸ reads⟩
  cases reads with
  | halfDay scans | bareFraction scans | fraction scans | fixedFraction scans | offset scans
    | looseOffset scans =>
      cases other
      next scansToo =>
      cases scans.symm.trans scansToo
      rfl
  | internetTime => exact absurd rfl single

/-- What an item of a format reads whenever it reads at all. -/
def FormatItem.kinds : FormatItem → List ClockKind
  | .number part => (part.gives 0).map ClockPart.kind
  | .named .halfDay => [.half]
  | .named (.bareFraction _) => [.nanos]
  | .named .offset => [.offset]
  | .named .looseOffset => [.offset]
  | .named .internetTime => [.half, .hourOfHalf, .minute, .second, .offset]
  | _ => []

namespace DateScan

variable {before after : DateFields} {text rest : List Char}

/-! ## Items that set one part -/

/-- What is scanned and stored. -/
theorem stored {α : Type} {found : Except TimeFault (α × List Char)}
    (store : α → Except TimeFault DateFields)
    (scans : (found >>= fun scanned => store scanned.1 >>= fun fields =>
      .ok (fields, scanned.2)) = .ok (after, rest)) :
    ∃ value, found = .ok (value, rest) ∧ store value = .ok after := by
  obtain ⟨⟨value, left⟩, scanned, continues⟩ := Outcome.bind_eq_ok.1 scans
  obtain ⟨_, stores, same⟩ := Outcome.bind_eq_ok.1 continues
  cases same
  exact ⟨value, scanned, stores⟩

theorem number_gains {part : NumberPart} (scans : number part before text = .ok (after, rest)) :
    Gains ((FormatItem.number part).Reads text) before after := by
  obtain ⟨value, scanned, stores⟩ := stored (part.store before) scans
  refine (part.store_gains stores).congr fun other => ⟨fun reads => ?_, .number scanned⟩
  cases reads with
  | number scans given =>
      cases scans.symm.trans scanned
      exact given

theorem setNanosecond_gains {nanos : Nat} (stores : before.setNanosecond nanos = .ok after) :
    Gains (· = .nanos nanos) before after := by
  refine (NumberPart.store_gains .nanosecond stores).congr fun part => ?_
  simp [NumberPart.gives]

/-- A fraction adds its nanoseconds if there is a point, and nothing otherwise. -/
theorem fraction_gains {scan : List Char → Except TimeFault (Nat × List Char)}
    {reads : List Char → ClockPart → Prop}
    (pointed : ∀ text value left, scan text = .ok (value, left) →
      ∀ part, reads ('.' :: text) part ↔ part = .nanos value)
    (other : ∀ text part, reads text part → ∃ rest, text = '.' :: rest)
    (scans : fraction scan before text = .ok (after, rest)) :
    Gains (reads text) before after := by
  unfold fraction at scans
  split at scans
  · obtain ⟨value, scanned, stores⟩ := stored (fun value : Nat => before.setNanosecond value) scans
    exact (setNanosecond_gains stores).congr (pointed _ _ _ scanned)
  · next plain =>
      cases scans
      refine Gains.congr (.nothing fun _ => Iff.rfl) fun part => iff_false_intro fun reads => ?_
      obtain ⟨rest, same⟩ := other text part reads
      exact plain rest same

theorem storeOffset_gains {found : Except TimeFault (Int × List Char)}
    {reads : ClockPart → Prop}
    (exact : ∀ seconds left, found = .ok (seconds, left) →
      ∀ part, reads part ↔ part = .offset seconds)
    (scans : storeOffset before found = .ok (after, rest)) : Gains reads before after := by
  obtain ⟨seconds, scanned, stores⟩ := stored before.setOffset scans
  exact (setOffset_gains stores).congr (exact _ _ scanned)

/-! ## A whole date and time -/

/-- A scan of a text, whatever fields it starts from, leaves one rest and adds the same parts. -/
def Uniform (scan : DateFields → Except TimeFault DateScan) : Prop :=
  ∃ (given : ClockPart → Prop) (left : List Char), ∀ before after rest,
    scan before = .ok (after, rest) → rest = left ∧ Gains given before after

theorem Uniform.pure (text : List Char) : Uniform fun fields => .ok (fields, text) := by
  refine ⟨fun _ => False, text, fun before after rest scans => ?_⟩
  cases scans
  exact ⟨rfl, .nothing fun _ => Iff.rfl⟩

theorem Uniform.error (fault : TimeFault) : Uniform fun _ => .error fault := by
  refine ⟨fun _ => False, [], fun before after rest scans => ?_⟩
  cases scans

theorem Uniform.bind {first : DateFields → Except TimeFault DateScan}
    {next : List Char → DateFields → Except TimeFault DateScan} (one : Uniform first)
    (two : ∀ text, Uniform (next text)) :
    Uniform (fun fields => first fields >>= fun scanned => next scanned.2 scanned.1) := by
  obtain ⟨given, middle, firstAdds⟩ := one
  obtain ⟨more, left, nextAdds⟩ := two middle
  refine ⟨fun part => given part ∨ more part, left, fun before after rest scans => ?_⟩
  obtain ⟨⟨fields, text⟩, scansFirst, scansNext⟩ := Outcome.bind_eq_ok.1 scans
  obtain ⟨rfl, gains⟩ := firstAdds before fields text scansFirst
  obtain ⟨rfl, gainsMore⟩ := nextAdds fields after rest scansNext
  exact ⟨rfl, gains.trans gainsMore⟩

theorem Uniform.following {α : Type} {found : Except TimeFault α}
    {next : α → DateFields → Except TimeFault DateScan} (two : ∀ value, Uniform (next value)) :
    Uniform (fun fields => found >>= fun value => next value fields) := by
  cases found with
  | error fault => exact .error fault
  | ok value => exact two value

/-- Whatever is stored, the rest is known beforehand. -/
theorem Uniform.store {store : DateFields → Except TimeFault DateFields}
    {given : ClockPart → Prop} (gains : ∀ before after, store before = .ok after →
      Gains given before after) (text : List Char) :
    Uniform (fun fields => store fields >>= fun after => .ok (after, text)) := by
  refine ⟨given, text, fun before after rest scans => ?_⟩
  obtain ⟨_, stores, same⟩ := Outcome.bind_eq_ok.1 scans
  cases same
  exact ⟨rfl, gains before _ stores⟩

theorem uniform_number (part : NumberPart) (text : List Char) :
    Uniform fun fields => number part fields text :=
  .following fun scanned => .store (fun _ _ => part.store_gains) scanned.2

theorem uniform_series (text : List Char) (parts : List (List Char × NumberPart)) :
    Uniform fun fields => series fields text parts := by
  induction parts generalizing text with
  | nil => exact .pure text
  | cons first rest ih =>
      obtain ⟨separator, part⟩ := first
      unfold series
      split
      · exact (uniform_number part text).bind fun text => ih text
      · exact .following fun text => (uniform_number part text).bind fun text => ih text

theorem uniform_fraction (scan : List Char → Except TimeFault (Nat × List Char))
    (text : List Char) : Uniform fun fields => fraction scan fields text := by
  unfold fraction
  split
  · exact .following fun scanned => .store (fun _ _ => setNanosecond_gains) scanned.2
  · exact .pure _

theorem uniform_storeOffset (found : Except TimeFault (Int × List Char)) :
    Uniform fun fields => storeOffset fields found :=
  .following fun scanned => .store (fun _ _ => setOffset_gains) scanned.2

def timeMark : List Char → Except TimeFault (List Char)
  | [] => .error .tooShort
  | c :: rest => if c = 't' || c = 'T' || c = ' ' then .ok rest else .error .invalid

def endingOffset (text : List Char) : Except TimeFault (Int × List Char) :=
  if TimeScan.lowerAscii (text.take 3) = "utc".toList then .ok (0, text.drop 3)
  else TimeScan.offset .free true false text

def clockAfterDate (text : List Char) (fields : DateFields) : Except TimeFault DateScan :=
  timeMark text >>= fun text =>
    series fields text [([], .hour), ([':'], .minute), ([':'], .second)] >>= fun timed =>
      fraction TimeScan.nanoseconds timed.1 timed.2 >>= fun timed =>
        storeOffset timed.1 (endingOffset (timed.2.dropWhile isBlank))

theorem internetTime_eq (fields : DateFields) (text : List Char) :
    internetTime fields text =
      (series fields text [([], .year), (['-'], .month), (['-'], .day)] >>= fun dated =>
        clockAfterDate dated.2 dated.1) := by
  have ending (fields : DateFields) (text : List Char) :
      storeOffset fields (endingOffset text) =
        if TimeScan.lowerAscii (text.take 3) = "utc".toList then
          storeOffset fields (.ok (0, text.drop 3))
        else storeOffset fields (TimeScan.offset .free true false text) := by
    rw [endingOffset]
    split <;> rfl
  unfold internetTime
  refine congrArg _ (funext fun (fields, text) => ?_)
  simp only [clockAfterDate, ending]
  cases text with
  | nil => rfl
  | cons c rest =>
      dsimp only [timeMark]
      split <;> rfl

theorem uniform_clockAfterDate (text : List Char) : Uniform (clockAfterDate text) := by
  have ending (text : List Char) :
      Uniform fun fields => storeOffset fields (endingOffset (text.dropWhile isBlank)) :=
    uniform_storeOffset _
  have fractional (text : List Char) : Uniform fun fields =>
      fraction TimeScan.nanoseconds fields text >>= fun timed =>
        storeOffset timed.1 (endingOffset (timed.2.dropWhile isBlank)) :=
    (uniform_fraction _ text).bind ending
  exact .following fun text => (uniform_series text _).bind fractional

theorem uniform_internetTime (text : List Char) :
    Uniform fun fields => internetTime fields text := by
  simp only [internetTime_eq]
  exact (uniform_series text _).bind uniform_clockAfterDate

theorem internetTime_gains (scans : internetTime before text = .ok (after, rest)) :
    Gains ((FormatItem.named .internetTime).Reads text) before after := by
  obtain ⟨given, left, adds⟩ := uniform_internetTime text
  have gains := (adds before after rest scans).2
  -- What some scan of this text adds, starting from other fields, every scan of it adds.
  have reads_given (part : ClockPart) (reads : (FormatItem.named .internetTime).Reads text part) :
      given part := by
    cases reads with
    | internetTime scans held new =>
        exact (((adds _ _ _ scans).2.holds_iff part).1 held).resolve_left new
  refine ⟨fun part => ⟨fun held => ?_, fun known => ?_⟩, fun part reads =>
    gains.inRange part (reads_given part reads)⟩
  · by_cases old : before.Holds part
    · exact .inl old
    · exact .inr (.internetTime scans held old)
  · exact (gains.holds_iff part).2 (known.imp_right (reads_given part))

/-! ## All items of a format -/

theorem named_gains {part : NamedPart} (scans : named part before text = .ok (after, rest)) :
    Gains ((FormatItem.named part).Reads text) before after := by
  cases part with
  | internetTime => exact internetTime_gains scans
  | halfDay =>
      obtain ⟨afternoon, scanned, stores⟩ := stored before.setHalfDay scans
      exact (setHalfDay_gains stores).congr ((FormatItem.Reads.halfDay scanned).iff_eq nofun)
  | bareFraction digits =>
      obtain ⟨value, scanned, stores⟩ :=
        stored (fun value : Nat => before.setNanosecond value) scans
      exact (setNanosecond_gains stores).congr
        ((FormatItem.Reads.bareFraction scanned).iff_eq nofun)
  | fraction =>
      refine fraction_gains (fun text value left scanned =>
        (FormatItem.Reads.fraction scanned).iff_eq nofun) (fun text part reads => ?_) scans
      cases reads
      exact ⟨_, rfl⟩
  | fixedFraction digits =>
      refine fraction_gains (fun text value left scanned =>
        (FormatItem.Reads.fixedFraction scanned).iff_eq nofun) (fun text part reads => ?_) scans
      cases reads
      exact ⟨_, rfl⟩
  | offset =>
      exact storeOffset_gains (fun seconds left scanned =>
        (FormatItem.Reads.offset scanned).iff_eq nofun) scans
  | looseOffset =>
      exact storeOffset_gains (fun seconds left scanned =>
        (FormatItem.Reads.looseOffset scanned).iff_eq nofun) scans
  | zoneName =>
      cases scans
      exact Gains.congr (.nothing fun _ => Iff.rfl) fun part => iff_false_intro nofun
  | shortMonth | longMonth =>
      obtain ⟨index, _, stores⟩ := stored (fun index : Nat => before.setMonth (index + 1)) scans
      exact (NumberPart.sameClock_store .month (fun _ => rfl) stores).gains.congr
        fun part => iff_false_intro nofun
  | shortWeekday | longWeekday =>
      obtain ⟨index, _, stores⟩ := stored before.setWeekday scans
      exact (sameClock_setWeekday stores).gains.congr fun part => iff_false_intro nofun

theorem item_gains {next : FormatItem} (scans : item next before text = .ok (after, rest)) :
    Gains (next.Reads text) before after := by
  have unread (same : before = after) (none : ∀ part, ¬ next.Reads text part) :
      Gains (next.Reads text) before after :=
    Gains.congr (.nothing fun _ => same ▸ Iff.rfl) fun part => iff_false_intro (none part)
  cases next with
  | number part => exact number_gains scans
  | named part => exact named_gains scans
  | blanks =>
      cases scans
      exact unread rfl nofun
  | literal expected =>
      rw [item] at scans
      cases matched : literal expected text with
      | error fault =>
          rw [matched] at scans
          cases scans
      | ok left =>
          rw [matched] at scans
          cases scans
          exact unread rfl nofun
  | bad => cases scans

/-- While a text is read with some items, this item is met in front of this rest of it. -/
inductive Meets (met : FormatItem) (place : List Char) :
    DateFields → List Char → List FormatItem → Prop where
  | here (fields : DateFields) (items : List FormatItem) :
      Meets met place fields place (met :: items)
  | later {next : FormatItem} {items : List FormatItem} {before after : DateFields}
      {text rest : List Char} (scans : item next before text = .ok (after, rest))
      (meets : Meets met place after rest items) : Meets met place before text (next :: items)

theorem items_gains {format : List FormatItem} (reads : items before text format = .ok after) :
    Gains (fun part => ∃ met place, Meets met place before text format ∧ met.Reads place part)
      before after := by
  induction format generalizing before text with
  | nil =>
      rw [items] at reads
      split at reads
      · cases reads
        refine Gains.congr (.nothing fun _ => Iff.rfl) fun part => iff_false_intro ?_
        rintro ⟨met, place, meets, _⟩
        cases meets
      · cases reads
  | cons next others ih =>
      obtain ⟨⟨middle, rest⟩, scans, readsRest⟩ := Outcome.bind_eq_ok.1 reads
      -- The rest is known from this item's scan, so whatever is met later is met from there.
      refine ((item_gains scans).trans (ih readsRest)).congr fun part => ⟨?_, ?_⟩
      · rintro ⟨met, place, meets, given⟩
        cases meets with
        | here => exact .inl given
        | later scansAlso meets =>
            cases scansAlso.symm.trans scans
            exact .inr ⟨met, place, meets, given⟩
      · rintro (given | ⟨met, place, meets, given⟩)
        · exact ⟨next, text, .here before others, given⟩
        · exact ⟨met, place, .later scans meets, given⟩

theorem number_has {part : NumberPart} (scans : number part before text = .ok (after, rest))
    {kind : ClockKind} (member : kind ∈ (part.gives 0).map ClockPart.kind) : after.Has kind := by
  obtain ⟨value, scanned, _⟩ := stored (part.store before) scans
  have sameKinds : (part.gives value).map ClockPart.kind = (part.gives 0).map ClockPart.kind := by
    cases part <;> rfl
  rw [← sameKinds] at member
  obtain ⟨given, listed, rfl⟩ := List.mem_map.1 member
  exact ⟨given, rfl, ((number_gains scans).holds_iff given).2 (.inr (.number scanned listed))⟩

theorem series_cons {separator : List Char} {part : NumberPart}
    {others : List (List Char × NumberPart)}
    (scans : series before text ((separator, part) :: others) = .ok (after, rest)) :
    ∃ place middle left, number part before place = .ok (middle, left) ∧
      series middle left others = .ok (after, rest) := by
  unfold series at scans
  split at scans <;>
  · obtain ⟨place, _, continues⟩ := Outcome.bind_eq_ok.1 scans
    obtain ⟨⟨middle, left⟩, scanned, scansRest⟩ := Outcome.bind_eq_ok.1 continues
    exact ⟨place, middle, left, scanned, scansRest⟩

theorem series_has {parts : List (List Char × NumberPart)}
    (scans : series before text parts = .ok (after, rest)) (entry : List Char × NumberPart)
    (listed : entry ∈ parts) {kind : ClockKind}
    (member : kind ∈ (entry.2.gives 0).map ClockPart.kind) : after.Has kind := by
  induction parts generalizing before text with
  | nil => cases listed
  | cons first others ih =>
      obtain ⟨place, middle, left, scanned, scansRest⟩ := series_cons scans
      rcases List.mem_cons.1 listed with rfl | listed
      · obtain ⟨given, _, adds⟩ := uniform_series left others
        exact (adds middle after rest scansRest).2.has (number_has scanned member)
      · exact ih scansRest listed

theorem storeOffset_has {found : Except TimeFault (Int × List Char)}
    (scans : storeOffset before found = .ok (after, rest)) : after.Has .offset := by
  obtain ⟨seconds, _, stores⟩ := stored before.setOffset scans
  exact ⟨.offset seconds, rfl, ((setOffset_gains stores).holds_iff _).2 (.inr rfl)⟩

theorem internetTime_has (scans : internetTime before text = .ok (after, rest)) {kind : ClockKind}
    (member : kind ∈ (FormatItem.named .internetTime).kinds) : after.Has kind := by
  rw [internetTime_eq] at scans
  obtain ⟨⟨dated, place⟩, _, scansClock⟩ := Outcome.bind_eq_ok.1 scans
  obtain ⟨marked, _, scansSeries⟩ := Outcome.bind_eq_ok.1 scansClock
  obtain ⟨⟨timed, left⟩, series, scansFraction⟩ := Outcome.bind_eq_ok.1 scansSeries
  obtain ⟨⟨precise, ending⟩, fractional, scansOffset⟩ := Outcome.bind_eq_ok.1 scansFraction
  obtain ⟨_, _, addsFraction⟩ := uniform_fraction TimeScan.nanoseconds left
  obtain ⟨_, _, addsOffset⟩ := uniform_storeOffset (endingOffset (ending.dropWhile isBlank))
  have onward {kind : ClockKind} (has : timed.Has kind) : after.Has kind :=
    (addsOffset _ _ _ scansOffset).2.has ((addsFraction _ _ _ fractional).2.has has)
  simp only [FormatItem.kinds, List.mem_cons, List.not_mem_nil, or_false] at member
  rcases member with rfl | rfl | rfl | rfl | rfl
  · exact onward (series_has series ([], .hour) (by simp) (.head _))
  · exact onward (series_has series ([], .hour) (by simp) (.tail _ (.head _)))
  · exact onward (series_has series ([':'], .minute) (by simp) (.head _))
  · exact onward (series_has series ([':'], .second) (by simp) (.head _))
  · exact storeOffset_has scansOffset

theorem item_has {next : FormatItem} (scans : item next before text = .ok (after, rest))
    {kind : ClockKind} (member : kind ∈ next.kinds) : after.Has kind := by
  cases next with
  | number part => exact number_has scans member
  | named part =>
      cases part with
      | internetTime => exact internetTime_has scans member
      | offset | looseOffset =>
          obtain rfl := List.mem_singleton.1 member
          exact storeOffset_has scans
      | halfDay =>
          obtain rfl := List.mem_singleton.1 member
          obtain ⟨⟨afternoon, left⟩, scanned, _⟩ := Outcome.bind_eq_ok.1 scans
          exact ⟨_, rfl, ((item_gains scans).holds_iff _).2 (.inr (.halfDay scanned))⟩
      | bareFraction digits =>
          obtain rfl := List.mem_singleton.1 member
          obtain ⟨⟨value, left⟩, scanned, _⟩ := Outcome.bind_eq_ok.1 scans
          exact ⟨_, rfl, ((item_gains scans).holds_iff _).2 (.inr (.bareFraction scanned))⟩
      | _ => cases member
  | _ => cases member

/-- An item that always reads a part of some kind has read one. -/
theorem items_has {format : List FormatItem} (reads : items before text format = .ok after)
    {next : FormatItem} (listed : next ∈ format) {kind : ClockKind} (member : kind ∈ next.kinds) :
    after.Has kind := by
  induction format generalizing before text with
  | nil => cases listed
  | cons first others ih =>
      obtain ⟨⟨middle, left⟩, scans, readsRest⟩ := Outcome.bind_eq_ok.1 reads
      rcases List.mem_cons.1 listed with rfl | listed
      · exact (items_gains readsRest).has (item_has scans member)
      · exact ih readsRest listed

end DateScan

def FormatItem.all (format : String) : List FormatItem :=
  ofFormat (format.toList.length + 1) format.toList

def ReadsPart (format raw : String) (part : ClockPart) : Prop :=
  ∃ met place, DateScan.Meets met place .empty raw.toList (FormatItem.all format) ∧
    met.Reads place part

/-- The fields of a text hold what is read in it, and only that. -/
theorem readFields_holds_iff {format raw : String} {fields : DateFields}
    (reads : readFields format raw = .ok fields) (part : ClockPart) :
    fields.Holds part ↔ ReadsPart format raw part := by
  rw [(DateScan.items_gains reads).holds_iff, or_iff_right (empty_holds_nothing part)]
  rfl

theorem readFields_offset_eq_none {format raw : String} {fields : DateFields}
    (reads : readFields format raw = .ok fields)
    (unread : ∀ seconds, ¬ ReadsPart format raw (.offset seconds)) : fields.offset = none :=
  Option.eq_none_iff_forall_ne_some.2 fun seconds held =>
    unread seconds ((readFields_holds_iff reads (.offset seconds)).1 held)

theorem readFields_timestamp_eq_none {format raw : String} {fields : DateFields}
    (reads : readFields format raw = .ok fields)
    (unread : ∀ seconds, ¬ ReadsPart format raw (.timestamp seconds)) : fields.timestamp = none :=
  Option.eq_none_iff_forall_ne_some.2 fun seconds held =>
    unread seconds ((readFields_holds_iff reads (.timestamp seconds)).1 held)

/-- Whatever the items of the format always read is read. -/
theorem readFields_reads {format raw : String} {fields : DateFields}
    (reads : readFields format raw = .ok fields) {next : FormatItem}
    (listed : next ∈ FormatItem.all format) {kind : ClockKind} (member : kind ∈ next.kinds) :
    ∃ part, part.kind = kind ∧ ReadsPart format raw part := by
  obtain ⟨part, same, held⟩ := DateScan.items_has reads listed member
  exact ⟨part, same, (readFields_holds_iff reads part).1 held⟩

theorem readFields_inRange {format raw : String} {fields : DateFields}
    (reads : readFields format raw = .ok fields) : fields.InRange :=
  (DateScan.items_gains reads).after_inRange fun part held =>
    (empty_holds_nothing part held).elim

end Sluice
