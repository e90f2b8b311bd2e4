import Mathlib.Data.List.Forall2
import Sluice.Script.Engine
import Sluice.Proofs.Outcome

/-!
# Compiling sources together

Rules that are compiled together get different names, so that each handle is evaluated with the tree
of its own source.
-/

set_option autoImplicit false

namespace Sluice

namespace Script

/-! ## Names of rules -/

def hexValue (c : Char) : Nat := if c.isDigit then c.toNat - 48 else c.toNat - 87

def hexNumber (digits : List Char) : Nat :=
  digits.foldl (fun number c => 16 * number + hexValue c) 0

theorem hexValue_digitChar {n : Nat} (small : n < 16) : hexValue (Nat.digitChar n) = n := by
  revert small
  revert n
  decide

theorem hexNumber_append_single (digits : List Char) (c : Char) :
    hexNumber (digits ++ [c]) = 16 * hexNumber digits + hexValue c := by
  simp [hexNumber]

theorem hexNumber_toDigits (n : Nat) : hexNumber (Nat.toDigits 16 n) = n := by
  induction n using Nat.strongRecOn with
  | ind n ih =>
      by_cases small : n < 16
      · rw [Nat.toDigits_of_lt_base small]
        simp [hexNumber, hexValue_digitChar small]
      · have smaller : n / 16 < n := by omega
        rw [Nat.toDigits_of_base_le (by omega) (by omega), hexNumber_append_single, ih _ smaller,
          hexValue_digitChar (Nat.mod_lt _ (by omega))]
        omega

theorem hexNumber_padded (count : Nat) (digits : List Char) :
    hexNumber (List.replicate count '0' ++ digits) = hexNumber digits := by
  induction count with
  | zero => rfl
  | succ count ih =>
      rw [List.replicate_succ, List.cons_append]
      exact ih

theorem ruleName_injective {first second : Nat} (same : ruleName first = ruleName second) :
    first = second := by
  simp only [ruleName, String.append_right_inj, String.ofList_inj] at same
  have numbers := congrArg hexNumber same
  simpa only [hexNumber_padded, hexNumber_toDigits] using numbers

/-! ## Handles -/

def outcomeOf (source : String) (env : Environment) : Outcome Datum :=
  match compile? source with
  | none => .error (.script source .malformed)
  | some tree =>
    match tree.eval env with
    | .ok value => .ok value
    | .error fault => .error (.script source fault)

namespace Engine

/-- No name from a serial number onward is in use. -/
def FreshFrom (serial : Nat) (engine : Engine) : Prop :=
  ∀ later, serial ≤ later → engine.compiled.lookup (ruleName later) = none

def Keeps (engine : Engine) (handle : Handle) (source : String) : Prop :=
  handle.source = source ∧
    ∃ tree, compile? source = some tree ∧ engine.compiled.lookup handle.name = some tree

def Extends (engine larger : Engine) : Prop :=
  ∀ name tree, engine.compiled.lookup name = some tree →
    larger.compiled.lookup name = some tree

theorem Keeps.extend {engine larger : Engine} {handle : Handle} {source : String}
    (keeps : engine.Keeps handle source) (wider : engine.Extends larger) :
    larger.Keeps handle source := by
  obtain ⟨same, tree, compiles, found⟩ := keeps
  exact ⟨same, tree, compiles, wider _ _ found⟩

theorem compile_spec {engine larger : Engine} {serial : Nat} {source : String} {handle : Handle}
    (fresh : engine.FreshFrom serial)
    (compiles : engine.compile serial source = .ok (handle, larger)) :
    larger.Keeps handle source ∧ engine.Extends larger ∧ larger.FreshFrom (serial + 1) := by
  rw [compile] at compiles
  split at compiles
  · next tree compiled =>
      obtain ⟨rfl, rfl⟩ := Prod.mk.inj (Except.ok.inj compiles)
      refine ⟨⟨rfl, tree, compiled, ?_⟩, ?_, ?_⟩
      · simp [List.lookup_append, fresh serial (Nat.le_refl _)]
      · intro name other found
        simp [List.lookup_append, found]
      · intro later above
        have other : ruleName later ≠ ruleName serial := fun same => by
          have := ruleName_injective same
          omega
        simp [List.lookup_append, fresh later (by omega), List.lookup_cons,
          beq_eq_false_iff_ne.2 other]
  · cases compiles

theorem Keeps.evaluate {engine : Engine} {handle : Handle} {source : String}
    (keeps : engine.Keeps handle source) (env : Environment) :
    engine.evaluate handle env = outcomeOf source env := by
  obtain ⟨rfl, tree, compiles, found⟩ := keeps
  cases value : tree.eval env <;> simp only [Engine.evaluate, found, outcomeOf, compiles, value]

theorem compile_ok {source : String} {tree : Expr} (compiled : compile? source = some tree)
    (engine : Engine) (serial : Nat) : engine.compile serial source =
      .ok (⟨ruleName serial, source⟩, ⟨engine.compiled ++ [(ruleName serial, tree)]⟩) := by
  rw [compile, compiled]

theorem compile_error {source : String} (malformed : compile? source = none) (engine : Engine)
    (serial : Nat) : engine.compile serial source = .error (.script source .malformed) := by
  rw [compile, malformed]

/-- A source that can be compiled is evaluated under its handle, whatever is compiled after it. -/
theorem evaluates_compiled {source : String} {tree : Expr} (compiled : compile? source = some tree)
    {engine : Engine} {serial : Nat} (fresh : engine.FreshFrom serial) :
    ∃ handle larger, engine.compile serial source = .ok (handle, larger) ∧
      ∀ later : Engine, larger.Extends later → ∀ env,
        later.evaluate handle env = outcomeOf source env := by
  have compiles := compile_ok compiled engine serial
  refine ⟨_, _, compiles, ?_⟩
  intro later wider env
  have keeps := (compile_spec fresh compiles).1
  exact (keeps.extend wider).evaluate env

/-- Either all sources can be compiled, or the first one that cannot decides. -/
theorem compileAll_cases (engine : Engine) (serial : Nat) (sources : List String) :
    (∃ handles larger, engine.compileAll serial sources = (.ok handles, larger) ∧
      ∀ source ∈ sources, (compile? source).isSome) ∨
    ∃ earlier source later larger, sources = earlier ++ source :: later ∧
      (∀ other ∈ earlier, (compile? other).isSome) ∧ compile? source = none ∧
        engine.compileAll serial sources = (.error (.script source .malformed), larger) := by
  induction sources generalizing engine serial with
  | nil => exact .inl ⟨[], engine, rfl, by simp⟩
  | cons source rest ih =>
      cases compiled : compile? source with
      | none =>
          refine .inr ⟨[], source, rest, engine, rfl, by simp, compiled, ?_⟩
          rw [compileAll, compile_error compiled]
      | some tree =>
          have first : (compile? source).isSome := by rw [compiled]; rfl
          rcases ih ⟨engine.compiled ++ [(ruleName serial, tree)]⟩ (serial + 1) with
            ⟨handles, larger, others, each⟩ |
            ⟨earlier, broken, later, larger, rfl, each, malformed, others⟩
          · refine .inl ⟨⟨ruleName serial, source⟩ :: handles, larger, ?_, ?_⟩
            · simp [compileAll, compile_ok compiled, others, Except.map]
            · simpa [first] using each
          · refine .inr ⟨source :: earlier, broken, later, larger, rfl, ?_, malformed, ?_⟩
            · simpa [first] using each
            · simp [compileAll, compile_ok compiled, others, Except.map]

/-- Sources that can each be compiled can be compiled together. -/
theorem compileAll_ok {sources : List String}
    (compile : ∀ source ∈ sources, (compile? source).isSome) (engine : Engine) (serial : Nat) :
    ∃ handles larger, engine.compileAll serial sources = (.ok handles, larger) := by
  rcases compileAll_cases engine serial sources with ⟨handles, larger, result, _⟩ |
    ⟨earlier, source, later, _, rfl, _, malformed, _⟩
  · exact ⟨handles, larger, result⟩
  · have compiles := compile source (by simp)
    rw [malformed] at compiles
    cases compiles

theorem compileAll_each {engine larger : Engine} {serial : Nat} {sources : List String}
    {handles : List Handle} (compiles : engine.compileAll serial sources = (.ok handles, larger)) :
    ∀ source ∈ sources, (compile? source).isSome := by
  rcases compileAll_cases engine serial sources with ⟨_, _, _, each⟩ |
    ⟨_, _, _, _, _, _, _, fails⟩
  · exact each
  · cases (Prod.mk.inj (compiles.symm.trans fails)).1

theorem compileAll_spec {engine larger : Engine} {serial : Nat} {sources : List String}
    {handles : List Handle} (fresh : engine.FreshFrom serial)
    (compiles : engine.compileAll serial sources = (.ok handles, larger)) :
    List.Forall₂ larger.Keeps handles sources ∧ engine.Extends larger := by
  induction sources generalizing engine serial handles with
  | nil =>
      obtain ⟨same, rfl⟩ := Prod.mk.inj compiles
      obtain rfl := Except.ok.inj same
      exact ⟨.nil, fun _ _ found => found⟩
  | cons source rest ih =>
      rw [compileAll] at compiles
      split at compiles
      · cases compiles
      · next handle middle compiled =>
          obtain ⟨keeps, wider, freshMiddle⟩ := compile_spec fresh compiled
          rcases others : middle.compileAll (serial + 1) rest with ⟨outcome, last⟩
          rw [others] at compiles
          obtain ⟨same, rfl⟩ := Prod.mk.inj compiles
          cases outcome with
          | error failure => cases same
          | ok found =>
              obtain rfl := Except.ok.inj same
              obtain ⟨keepsRest, extendsRest⟩ := ih freshMiddle others
              exact ⟨.cons (keeps.extend extendsRest) keepsRest,
                fun name tree held => extendsRest name tree (wider name tree held)⟩

end Engine

end Script

end Sluice
