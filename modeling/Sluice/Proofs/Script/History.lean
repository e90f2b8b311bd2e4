import Mathlib.Data.List.Nodup
import Mathlib.Logic.Function.Basic
import Sluice.Proofs.Record
import Sluice.Proofs.Script.Engine

/-!
# Histories of engines

Several engines are called in any order.  As long as every name that is generated is new to all of
them, a handle means its own source on the engine that has compiled it, whatever is called later,
and nothing on the others.
-/

set_option autoImplicit false

namespace Sluice

namespace Script

/-! ## Calls -/

inductive Query where
  | test (record : Record)
  | value (record : Record)
  | testFile (filename : String)
  | fileValue (filename : String)

inductive Reply where
  | handles (outcome : Outcome (List Handle))
  | truth (outcome : Outcome Bool)
  | value (outcome : Outcome Value)

/-- A call of an engine.  A call that compiles takes the serial numbers of its rules from the given
one on. -/
inductive Call where
  | compile (serial : Nat) (source : String)
  | compileAll (serial : Nat) (sources : List String)
  | ask (handle : Handle) (query : Query)

namespace Query

def ask (engine : Engine) (handle : Handle) : Query → Reply
  | test record => .truth (engine.test handle record)
  | value record => .value (engine.valueOf handle record)
  | testFile filename => .truth (engine.testFile handle filename)
  | fileValue filename => .value (engine.fileValueOf handle filename)

def environment : Query → Environment
  | test record => recordEnvironment record
  | value record => recordEnvironment record
  | testFile filename => recordEnvironment (fileRecord filename)
  | fileValue filename => recordEnvironment (fileRecord filename)

def reply : Query → Outcome Datum → Reply
  | test _, outcome => .truth (outcome.map Datum.truth)
  | value _, outcome => .value (outcome.map Datum.toValue)
  | testFile _, outcome => .truth (outcome.map Datum.truth)
  | fileValue _, outcome => .value (outcome.map Datum.toValue)

theorem ask_eq (engine : Engine) (handle : Handle) (query : Query) :
    query.ask engine handle = query.reply (engine.evaluate handle query.environment) := by
  cases query <;> rfl

end Query

def Engine.answer (engine : Engine) : Call → Reply × Engine
  | .compile serial source =>
    match engine.compile serial source with
    | .ok (handle, larger) => (.handles (.ok [handle]), larger)
    | .error failure => (.handles (.error failure), engine)
  | .compileAll serial sources =>
    let (outcome, larger) := engine.compileAll serial sources
    (.handles outcome, larger)
  | .ask handle query => (query.ask engine handle, engine)

/-! ## What a call compiles -/

/-- The sources up to the first that is malformed, with their trees, under the names of the serial
numbers from the given one on. -/
def entriesFrom : Nat → List String → List (String × Expr)
  | _, [] => []
  | serial, source :: rest =>
    match compile? source with
    | none => []
    | some tree => (ruleName serial, tree) :: entriesFrom (serial + 1) rest

namespace Call

def sources : Call → List String
  | compile _ source => [source]
  | compileAll _ sources => sources
  | ask _ _ => []

/-- The sources that the call compiles: those before the first that is malformed. -/
def compiled (call : Call) : List String :=
  call.sources.takeWhile fun source => (compile? source).isSome

def entries : Call → List (String × Expr)
  | compile serial source => entriesFrom serial [source]
  | compileAll serial sources => entriesFrom serial sources
  | ask _ _ => []

end Call

theorem length_entriesFrom (serial : Nat) (sources : List String) :
    (entriesFrom serial sources).length =
      (sources.takeWhile fun source => (compile? source).isSome).length := by
  induction sources generalizing serial with
  | nil => rfl
  | cons source rest ih =>
      rw [entriesFrom, List.takeWhile_cons]
      cases compile? source with
      | none => rfl
      | some tree => simp [ih]

theorem length_entries (call : Call) : call.entries.length = call.compiled.length := by
  cases call with
  | compile serial source => exact length_entriesFrom serial [source]
  | compileAll serial sources => exact length_entriesFrom serial sources
  | ask handle query => rfl

theorem name_entriesFrom {serial : Nat} {sources : List String} {entry : String × Expr}
    (member : entry ∈ entriesFrom serial sources) :
    ∃ later, serial ≤ later ∧ entry.1 = ruleName later := by
  induction sources generalizing serial with
  | nil => cases member
  | cons source rest ih =>
      rw [entriesFrom] at member
      cases compiled : compile? source with
      | none =>
          rw [compiled] at member
          cases member
      | some tree =>
          rw [compiled] at member
          rcases List.mem_cons.1 member with rfl | member
          · exact ⟨serial, Nat.le_refl _, rfl⟩
          · obtain ⟨later, above, named⟩ := ih member
            exact ⟨later, by omega, named⟩

theorem nodup_entriesFrom (serial : Nat) (sources : List String) :
    ((entriesFrom serial sources).map Prod.fst).Nodup := by
  induction sources generalizing serial with
  | nil => exact .nil
  | cons source rest ih =>
      rw [entriesFrom]
      cases compile? source with
      | none => exact .nil
      | some tree =>
          refine List.nodup_cons.2 ⟨fun member => ?_, ih (serial + 1)⟩
          obtain ⟨entry, listed, same⟩ := List.mem_map.1 member
          obtain ⟨later, above, named⟩ := name_entriesFrom listed
          have equal := ruleName_injective (named.symm.trans same)
          omega

theorem nodup_entries (call : Call) : (call.entries.map Prod.fst).Nodup := by
  cases call with
  | compile serial source => exact nodup_entriesFrom serial [source]
  | compileAll serial sources => exact nodup_entriesFrom serial sources
  | ask handle query => exact .nil

def Handle.Names (handle : Handle) (entry : String × Expr) : Prop :=
  handle.name = entry.1 ∧ compile? handle.source = some entry.2

theorem Handle.Names.of_mem {handles : List Handle} {entries : List (String × Expr)}
    (names : List.Forall₂ Names handles entries) {handle : Handle} (member : handle ∈ handles) :
    ∃ entry ∈ entries, handle.Names entry := by
  induction names with
  | nil => cases member
  | cons first _ ih =>
      rcases List.mem_cons.1 member with rfl | member
      · exact ⟨_, List.mem_cons_self .., first⟩
      · obtain ⟨entry, listed, named⟩ := ih member
        exact ⟨entry, List.mem_cons_of_mem _ listed, named⟩

theorem Handle.Names.map_name {handles : List Handle} {entries : List (String × Expr)}
    (names : List.Forall₂ Names handles entries) :
    handles.map (·.name) = entries.map Prod.fst := by
  induction names with
  | nil => rfl
  | cons first _ ih => rw [List.map_cons, List.map_cons, first.1, ih]

theorem compileAll_entries (engine : Engine) (serial : Nat) (sources : List String) :
    (engine.compileAll serial sources).2.compiled = engine.compiled ++ entriesFrom serial sources ∧
      ∀ handles, (engine.compileAll serial sources).1 = .ok handles →
        handles.map (·.source) = sources ∧
          List.Forall₂ Handle.Names handles (entriesFrom serial sources) := by
  induction sources generalizing engine serial with
  | nil =>
      refine ⟨(List.append_nil _).symm, fun handles found => ?_⟩
      obtain rfl := Except.ok.inj found
      exact ⟨rfl, .nil⟩
  | cons source rest ih =>
      cases compiled : compile? source with
      | none =>
          rw [Engine.compileAll, Engine.compile_error compiled, entriesFrom, compiled]
          refine ⟨(List.append_nil _).symm, fun handles found => ?_⟩
          cases found
      | some tree =>
          rw [Engine.compileAll, Engine.compile_ok compiled, entriesFrom, compiled]
          obtain ⟨grown, named⟩ := ih ⟨engine.compiled ++ [(ruleName serial, tree)]⟩ (serial + 1)
          refine ⟨grown.trans (List.append_assoc _ _ _), fun handles found => ?_⟩
          dsimp only at found
          cases others : (Engine.compileAll ⟨engine.compiled ++ [(ruleName serial, tree)]⟩
              (serial + 1) rest).1 with
          | error failure =>
              rw [others] at found
              cases found
          | ok laterHandles =>
              rw [others] at found
              obtain rfl := Except.ok.inj found
              obtain ⟨sources, names⟩ := named laterHandles others
              exact ⟨congrArg (source :: ·) sources, .cons ⟨rfl, compiled⟩ names⟩

/-- A single source is compiled like a list of it. -/
theorem answer_compile (engine : Engine) (serial : Nat) (source : String) :
    engine.answer (.compile serial source) = engine.answer (.compileAll serial [source]) := by
  cases compiled : compile? source with
  | none =>
      simp only [Engine.answer, Engine.compileAll, Engine.compile_error compiled]
  | some tree =>
      simp only [Engine.answer, Engine.compileAll, Engine.compile_ok compiled]
      rfl

/-- A call adds its entries, and if it is replied to with handles these are the handles of its
entries and sources. -/
theorem Engine.answer_spec (engine : Engine) (call : Call) :
    (engine.answer call).2.compiled = engine.compiled ++ call.entries ∧
      ∀ handles, (engine.answer call).1 = .handles (.ok handles) →
        handles.map (·.source) = call.sources ∧
          List.Forall₂ Handle.Names handles call.entries := by
  cases call with
  | compile serial source =>
      rw [answer_compile]
      obtain ⟨grown, named⟩ := compileAll_entries engine serial [source]
      exact ⟨grown, fun handles found => named handles (Reply.handles.inj found)⟩
  | compileAll serial sources =>
      obtain ⟨grown, named⟩ := compileAll_entries engine serial sources
      exact ⟨grown, fun handles found => named handles (Reply.handles.inj found)⟩
  | ask handle query =>
      refine ⟨(List.append_nil _).symm, fun handles found => ?_⟩
      cases query <;> cases found

/-! ## Several engines -/

section Histories

variable {count : Nat}

def after (engines : Fin count → Engine) (k : Fin count) (call : Call) : Fin count → Engine :=
  Function.update engines k ((engines k).answer call).2

/-- No engine has compiled anything under a name that the call generates. -/
def Fresh (engines : Fin count → Engine) (call : Call) : Prop :=
  ∀ k, ∀ entry ∈ call.entries, (engines k).compiled.lookup entry.1 = none

/-- A history of calls from some engines to others, in which every name is fresh when it is
generated. -/
inductive Runs : (Fin count → Engine) → List (Fin count × Call) → (Fin count → Engine) → Prop
  | nil (engines : Fin count → Engine) : Runs engines [] engines
  | cons {engines last : Fin count → Engine} {k : Fin count} {call : Call}
      {later : List (Fin count × Call)} (fresh : Fresh engines call)
      (runs : Runs (after engines k call) later last) : Runs engines ((k, call) :: later) last

theorem compiled_after (engines : Fin count → Engine) (k other : Fin count) (call : Call) :
    (after engines k call other).compiled =
      (engines other).compiled ++ if k = other then call.entries else [] := by
  by_cases same : k = other
  · subst same
    rw [after, Function.update_self, (Engine.answer_spec _ call).1, if_pos rfl]
  · rw [after, Function.update_of_ne (Ne.symm same), if_neg same, List.append_nil]

def compilations (k : Fin count) (history : List (Fin count × Call)) : Nat :=
  ((history.filter (·.1 = k)).flatMap (·.2.compiled)).length

theorem Runs.size {engines last : Fin count → Engine} {history : List (Fin count × Call)}
    (runs : Runs engines history last) (k : Fin count) :
    (last k).size = (engines k).size + compilations k history := by
  induction runs with
  | nil engines => rfl
  | @cons engines last called call later fresh _ ih =>
      have grown := congrArg List.length (compiled_after engines called k call)
      rw [List.length_append] at grown
      rw [ih, Engine.size, grown, ← Engine.size]
      by_cases same : called = k
      · simp [compilations, same, length_entries, Nat.add_assoc]
      · simp [compilations, same]

/-- The engine keeps the tree of the handle's source, and the others know no rule of its name. -/
structure Owns (engines : Fin count → Engine) (k : Fin count) (handle : Handle) : Prop where
  keeps : (engines k).Keeps handle handle.source
  foreign : ∀ other, other ≠ k → (engines other).compiled.lookup handle.name = none

/-- Fresh names take nothing away from the owner of a handle. -/
theorem Owns.call {engines : Fin count → Engine} {k : Fin count} {handle : Handle}
    (owns : Owns engines k handle) {call : Call} (fresh : Fresh engines call) (called : Fin count) :
    Owns (after engines called call) k handle := by
  obtain ⟨_, tree, compiles, found⟩ := owns.keeps
  refine ⟨⟨rfl, tree, compiles, ?_⟩, fun other differs => ?_⟩
  · rw [compiled_after, List.lookup_append, found]
    rfl
  · have newNames : call.entries.lookup handle.name = none := by
      refine List.lookup_eq_none_iff.2 fun entry member => ?_
      have unused := fresh k entry member
      have apart : handle.name ≠ entry.1 := by
        intro same
        rw [← same, found] at unused
        cases unused
      simpa using apart
    rw [compiled_after, List.lookup_append, owns.foreign other differs, Option.none_or]
    split
    · exact newNames
    · rfl

theorem Owns.runs {engines last : Fin count → Engine} {history : List (Fin count × Call)}
    (runs : Runs engines history last) {k : Fin count} {handle : Handle}
    (owns : Owns engines k handle) : Owns last k handle := by
  induction runs with
  | nil engines => exact owns
  | cons fresh _ ih => exact ih (owns.call fresh _)

/-- The engine that has compiled a source owns its handle. -/
theorem owns_answered {engines : Fin count → Engine} {k : Fin count} {call : Call}
    (fresh : Fresh engines call) {handles : List Handle}
    (answered : ((engines k).answer call).1 = .handles (.ok handles)) :
    ∀ handle ∈ handles, Owns (after engines k call) k handle := by
  intro handle member
  obtain ⟨_, named⟩ := ((engines k).answer_spec call).2 handles answered
  obtain ⟨entry, listed, name, compiles⟩ := Handle.Names.of_mem named member
  refine ⟨⟨rfl, entry.2, compiles, ?_⟩, fun other differs => ?_⟩
  · rw [compiled_after, List.lookup_append, name, fresh k entry listed, if_pos rfl, Option.none_or]
    exact lookup_of_mem (nodup_entries call) listed
  · rw [compiled_after, List.lookup_append, name, fresh other entry listed,
      if_neg (Ne.symm differs)]
    rfl

theorem Owns.ask {engines : Fin count → Engine} {k : Fin count} {handle : Handle}
    (owns : Owns engines k handle) (query : Query) :
    query.ask (engines k) handle = query.reply (outcomeOf handle.source query.environment) ∧
      ∀ other, other ≠ k → query.ask (engines other) handle = query.reply (.error
        (.unsupported ("rule '" ++ handle.name ++ "' was not compiled by this engine"))) := by
  refine ⟨?_, fun other differs => ?_⟩
  · rw [query.ask_eq, owns.keeps.evaluate]
  · rw [query.ask_eq, Engine.evaluate, owns.foreign other differs]

/-- What holds after any history of engines that begin empty.  Each engine has as many rules as it
has compiled sources, those before a malformed one in a list included.  A source that cannot be
compiled leaves all engines as they are.  And the handles that a call is replied to with are those
of its sources, have different names, and from then on, whatever is called later, come to what their
source comes to on the engine that has compiled them, as they did at first; any other engine refuses
them, whatever they are asked. -/
theorem handles_mean_their_source {engines : Fin count → Engine}
    {history : List (Fin count × Call)} (runs : Runs (fun _ => .empty) history engines) :
    (∀ k, (engines k).size = compilations k history) ∧
    (∀ k serial source failure,
      ((engines k).answer (.compile serial source)).1 = .handles (.error failure) →
        after engines k (.compile serial source) = engines) ∧
    ∀ k call handles, Fresh engines call →
      ((engines k).answer call).1 = .handles (.ok handles) →
        handles.map (·.source) = call.sources ∧ (handles.map (·.name)).Nodup ∧
        ∀ later last, Runs (after engines k call) later last → ∀ handle ∈ handles, ∀ query : Query,
          query.ask (last k) handle = query.ask (after engines k call k) handle ∧
          query.ask (last k) handle = query.reply (outcomeOf handle.source query.environment) ∧
          ∀ other, other ≠ k → query.ask (last other) handle = query.reply
            (.error (.unsupported
              ("rule '" ++ handle.name ++ "' was not compiled by this engine"))) := by
  refine ⟨fun k => ?_, fun k serial source failure answered => ?_,
    fun k call handles fresh answered => ?_⟩
  · exact (runs.size k).trans (Nat.zero_add _)
  · cases compiled : compile? source with
    | none =>
        rw [after, Engine.answer, Engine.compile_error compiled]
        exact Function.update_eq_self k engines
    | some tree =>
        rw [Engine.answer, Engine.compile_ok compiled] at answered
        cases answered
  · obtain ⟨sources, names⟩ := ((engines k).answer_spec call).2 handles answered
    refine ⟨sources, ?_, fun later last runsLater handle member query => ?_⟩
    · rw [Handle.Names.map_name names]
      exact nodup_entries call
    · have owned := owns_answered fresh answered handle member
      obtain ⟨means, refused⟩ := (owned.runs runsLater).ask query
      exact ⟨means.trans (owned.ask query).1.symm, means, refused⟩

end Histories

/-- A list that breaks off leaves its first source compiled.  Of rules with the same source each
engine evaluates its own. -/
theorem handles_mean_their_source_twice :
    let begun : Fin 2 → Engine := fun _ => .empty
    let engines := after (after begun 0 (.compileAll 0 ["a", "a +", "b"])) 1 (.compile 5 "a")
    let handle : Handle := ⟨ruleName 1, "a"⟩
    let query := Query.value (.ofPairs [("a", .int 3)])
    let last := after (after engines 0 (.compile 1 "a")) 1 (.compile 6 "a")
    (engines 0).size = 1 ∧ query.ask (last 0) handle = .value (.ok (.int 3)) ∧
      query.ask (last 1) handle = .value (.error (.unsupported
        ("rule '" ++ handle.name ++ "' was not compiled by this engine"))) := by
  intro begun engines handle query last
  have isSome : (compile? "a").isSome := by decide +kernel
  obtain ⟨tree, compiled⟩ := Option.isSome_iff_exists.1 isSome
  have runs : Runs begun [(0, .compileAll 0 ["a", "a +", "b"]), (1, .compile 5 "a")] engines := by
    refine .cons ?_ (.cons ?_ (.nil _))
    · intro k entry member
      rfl
    · unfold Fresh
      decide +kernel
  have fresh : Fresh engines (.compile 1 "a") := by
    unfold Fresh
    decide +kernel
  have answered : ((engines 0).answer (.compile 1 "a")).1 = .handles (.ok [handle]) := by
    rw [Engine.answer, Engine.compile_ok compiled]
  have later : Runs (after engines 0 (.compile 1 "a")) [(1, .compile 6 "a")] last := by
    refine .cons ?_ (.nil _)
    unfold Fresh
    decide +kernel
  obtain ⟨sizes, _, handles⟩ := handles_mean_their_source runs
  obtain ⟨_, _, means⟩ := handles 0 (.compile 1 "a") [handle] fresh answered
  obtain ⟨_, own, foreign⟩ := means _ last later handle (List.mem_singleton_self _) query
  refine ⟨(sizes 0).trans (by decide +kernel), own.trans (congrArg Reply.value ?_),
    foreign 1 (by decide)⟩
  decide +kernel

end Script

end Sluice
