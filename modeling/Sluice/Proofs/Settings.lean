import Sluice.Catalog
import Sluice.Proofs.Outcome

/-!
# Settings under a policy

Setting the policy for failing entries changes the policy of a stage and nothing else of it.
-/

set_option autoImplicit false

namespace Sluice

theorem lookup_setSorted {α : Type} (name other : String) (value : α)
    (pairs : List (String × α)) :
    (setSorted name value pairs).lookup other =
      if other = name then some value else pairs.lookup other := by
  induction pairs with
  | nil =>
      by_cases same : other = name
      · simp [setSorted, same]
      · simp [setSorted, List.lookup_cons, beq_eq_false_iff_ne.2 same, same]
  | cons first rest ih =>
      obtain ⟨key, old⟩ := first
      simp only [setSorted]
      by_cases same : other = name
      · subst same
        split
        · simp
        · next differs =>
            split
            · simp
            · simp [List.lookup_cons, beq_eq_false_iff_ne.2 (Ne.symm differs), ih]
      · split
        · next hit =>
            subst hit
            simp [List.lookup_cons, beq_eq_false_iff_ne.2 same]
        · split
          · simp [List.lookup_cons, beq_eq_false_iff_ne.2 same]
          · simp [List.lookup_cons, ih, same]

namespace Settings

def EntryPolicy.text : EntryPolicy → String
  | fail => "fail"
  | skip => "skip"

def under (policy : EntryPolicy) (settings : Settings) : Settings :=
  setSorted entryPolicyKey (.text policy.text) settings

variable (policy : EntryPolicy) (settings : Settings)

theorem get?_under {key : String} (other : key ≠ entryPolicyKey) :
    (settings.under policy).get? key = settings.get? key := by
  rw [get?, under, lookup_setSorted, if_neg other, get?]

theorem entryPolicy_under : (settings.under policy).entryPolicy = .ok policy := by
  have found : (settings.under policy).get? entryPolicyKey = some (.text policy.text) := by
    rw [get?, under, lookup_setSorted, if_pos rfl]
  rw [entryPolicy, optionalText, found]
  cases policy <;> rfl

/-! ## The other keys -/

section Accessors

variable {key : String} (other : key ≠ entryPolicyKey)

include other

theorem required_under : (settings.under policy).required key = settings.required key := by
  rw [required, get?_under policy settings other, required]

theorem requiredText_under :
    (settings.under policy).requiredText key = settings.requiredText key := by
  rw [requiredText, required_under policy settings other, requiredText]

theorem optionalText_under :
    (settings.under policy).optionalText key = settings.optionalText key := by
  rw [optionalText, get?_under policy settings other, optionalText]

theorem optionalBool_under (default : Bool) :
    (settings.under policy).optionalBool key default = settings.optionalBool key default := by
  rw [optionalBool, get?_under policy settings other, optionalBool]

theorem requiredList_under :
    (settings.under policy).requiredList key = settings.requiredList key := by
  rw [requiredList, required_under policy settings other, requiredList]

theorem delimiter_under (default : UInt8) :
    (settings.under policy).delimiter key default = settings.delimiter key default := by
  rw [delimiter, optionalText_under policy settings other, delimiter]

end Accessors

theorem columns_under {α : Type} (read : Settings → Outcome α) :
    (settings.under policy).columns read = settings.columns read := by
  rw [columns, requiredList_under policy settings (by decide), columns]

end Settings

/-! ## What the functions read -/

section Functions

variable (policy : Settings.EntryPolicy) (settings : Settings)

theorem FieldRouting.ofSettings_under :
    ofSettings (settings.under policy) = ofSettings settings := by
  rw [ofSettings, settings.requiredText_under policy (by decide),
    settings.requiredList_under policy (by decide), ofSettings]

theorem ConditionRouting.ofSettings_under :
    ofSettings (settings.under policy) = ofSettings settings := by
  rw [ofSettings, settings.requiredText_under policy (by decide),
    settings.requiredList_under policy (by decide), ofSettings]

theorem DeriveRule.ofSettings_under :
    ofSettings (settings.under policy) = ofSettings settings := by
  rw [ofSettings, settings.requiredList_under policy (by decide), ofSettings]

theorem DelimitedFormat.ofSettings_under :
    ofSettings (settings.under policy) = ofSettings settings := by
  simp only [ofSettings, settings.columns_under policy]
  rw [settings.optionalBool_under policy (by decide),
    settings.optionalBool_under policy (by decide),
    settings.optionalBool_under policy (by decide), settings.delimiter_under policy (by decide)]

theorem FixedWidthFormat.ofSettings_under :
    ofSettings (settings.under policy) = ofSettings settings := by
  rw [ofSettings, settings.optionalBool_under policy (by decide), settings.columns_under policy,
    ofSettings]

theorem DelimitedLayout.ofSettings_under :
    ofSettings (settings.under policy) = ofSettings settings := by
  simp only [ofSettings]
  rw [settings.requiredList_under policy (by decide), settings.required_under policy (by decide),
    settings.delimiter_under policy (by decide), settings.requiredText_under policy (by decide),
    settings.get?_under policy (by decide)]

end Functions

def Stage.under (policy : Settings.EntryPolicy) (stage : Stage) : Stage :=
  { stage with policy := policy }

/-- The settings of a function come to the same stage under each policy, but for the policy. -/
theorem settle_under {function : BuiltinFunction} (builtin : function ∈ builtinFunctions)
    (settings : Settings) : ∃ settled : Outcome Stage, ∀ policy,
      function.settle (settings.under policy) = settled.map (.under policy) := by
  refine ⟨function.settle (settings.under .fail), fun policy => ?_⟩
  simp only [builtinFunctions, List.mem_cons, List.not_mem_nil, or_false] at builtin
  rcases builtin with rfl | rfl | rfl | rfl | rfl | rfl | rfl | rfl
  · simp only [routeByField, FieldRouting.settle, FieldRouting.ofSettings_under,
      Settings.entryPolicy_under, Outcome.ok_bind]
    cases FieldRouting.ofSettings settings <;> rfl
  · simp only [routeByCondition, ConditionRouting.settle, ConditionRouting.ofSettings_under,
      Settings.entryPolicy_under, Outcome.ok_bind]
    cases ConditionRouting.ofSettings settings with
    | error failure => rfl
    | ok routing =>
        simp only [Outcome.ok_bind]
        cases routing.compile <;> rfl
  · simp only [routeFiles, ConditionRouting.settle, ConditionRouting.ofSettings_under,
      Settings.entryPolicy_under, Outcome.ok_bind]
    cases ConditionRouting.ofSettings settings with
    | error failure => rfl
    | ok routing =>
        simp only [Outcome.ok_bind]
        cases routing.compile <;> rfl
  · simp only [transformRecords, DeriveRule.settle, DeriveRule.ofSettings_under,
      Settings.entryPolicy_under, Outcome.ok_bind]
    cases DeriveRule.ofSettings settings with
    | error failure => rfl
    | ok rules =>
        simp only [Outcome.ok_bind]
        cases DeriveRule.compile rules <;> rfl
  · simp only [parseDelimited, DelimitedFormat.settle, DelimitedFormat.ofSettings_under,
      Settings.entryPolicy_under, Outcome.ok_bind]
    cases DelimitedFormat.ofSettings settings <;> rfl
  · simp only [parseFixedWidth, FixedWidthFormat.settle, FixedWidthFormat.ofSettings_under,
      Settings.entryPolicy_under, Outcome.ok_bind]
    cases FixedWidthFormat.ofSettings settings <;> rfl
  · simp only [generateDelimited, DelimitedLayout.settle, DelimitedLayout.ofSettings_under,
      Settings.entryPolicy_under, Outcome.ok_bind]
    cases DelimitedLayout.ofSettings settings <;> rfl
  · simp only [saveFiles, Path.settle, Settings.entryPolicy_under, Outcome.ok_bind]
    rw [settings.requiredText_under _ (by decide), settings.requiredText_under _ (by decide)]
    cases settings.requiredText "destinationFolder" <;> rfl

end Sluice
