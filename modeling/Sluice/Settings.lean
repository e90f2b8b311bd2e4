import Sluice.Failure
import Sluice.Json

/-!
# Settings

A function is set up by the members of a JSON object.  Each accessor looks at one key and names it
in the failure.  An explicit null counts as an absent optional setting.
-/

set_option autoImplicit false

namespace Sluice

/-- The settings of a function, sorted by key. -/
abbrev Settings := Members

namespace Settings

def wrongType (key expected : String) (actual : Json) : Failure :=
  .settings key ("expected " ++ expected ++ ", got " ++ actual.kind)

def get? (settings : Settings) (key : String) : Option Json := settings.lookup key

def required (settings : Settings) (key : String) : Outcome Json :=
  match settings.get? key with
  | some value => .ok value
  | none => .error (.settings key "required key is missing")

def requiredText (settings : Settings) (key : String) : Outcome String := do
  match ← settings.required key with
  | .text text => .ok text
  | other => .error (wrongType key "a string" other)

def optionalText (settings : Settings) (key : String) : Outcome (Option String) :=
  match settings.get? key with
  | none => .ok none
  | some .null => .ok none
  | some (.text text) => .ok (some text)
  | some other => .error (wrongType key "a string" other)

def optionalBool (settings : Settings) (key : String) (default : Bool) : Outcome Bool :=
  match settings.get? key with
  | none => .ok default
  | some .null => .ok default
  | some (.bool truth) => .ok truth
  | some other => .error (wrongType key "a boolean" other)

def requiredList (settings : Settings) (key : String) : Outcome (List Json) := do
  match ← settings.required key with
  | .list items => .ok items
  | other => .error (wrongType key "a list" other)

/-- The name of an item of a list, as in `rules[2]`. -/
def itemKey (key : String) (index : Nat) : String := key ++ "[" ++ toString index ++ "]"

def ofItem (item : Json) (key : String) (index : Nat) : Outcome Settings :=
  match item with
  | .object members => .ok members
  | other => .error (wrongType (itemKey key index) "a mapping" other)

def sizeMax : Nat := 18446744073709551615

/-- A size: a natural of at most 64 bits.  A float counts when it is whole; the float that the
greatest size rounds to is taken for the greatest size. -/
def sizeOf (key : String) (value : Json) : Outcome Nat :=
  match value with
  | .int n =>
    if 0 ≤ n ∧ n ≤ sizeMax then .ok n.toNat
    else .error (wrongType key "a non-negative integer" value)
  | .float x =>
    if Binary64.le .zero x && x.isWhole && Binary64.le x (.ofInt sizeMax) then
      .ok (min x.truncatedInt.toNat sizeMax)
    else .error (wrongType key "a non-negative integer" value)
  | _ => .error (wrongType key "a non-negative integer" value)

def requiredSize (settings : Settings) (key : String) : Outcome Nat := do
  sizeOf key (← settings.required key)

def optionalSize (settings : Settings) (key : String) : Outcome (Option Nat) :=
  match settings.get? key with
  | none => .ok none
  | some .null => .ok none
  | some value => (sizeOf key value).map some

/-- A delimiter: one ASCII character; an empty text stands for the default. -/
def delimiter (settings : Settings) (key : String) (default : UInt8) : Outcome UInt8 := do
  match ← settings.optionalText key with
  | none => .ok default
  | some text =>
    match text.toList with
    | [] => .ok default
    | [c] =>
      if c.toNat < 128 then .ok (UInt8.ofNat c.toNat)
      else .error (.settings key "delimiter must be an ASCII character")
    | _ =>
      .error (.settings key ("delimiter can only be a single character, got '" ++ text ++ "'"))

/-- What a run does when an entry fails. -/
inductive EntryPolicy where
  | fail
  | skip
  deriving DecidableEq, Repr

def entryPolicyKey : String := "onEntryError"

def entryPolicy (settings : Settings) : Outcome EntryPolicy := do
  match ← settings.optionalText entryPolicyKey with
  | none => .ok .fail
  | some text =>
    if text = "fail" then .ok .fail
    else if text = "skip" then .ok .skip
    else
      .error (.settings entryPolicyKey ("expected \"fail\" or \"skip\", got \"" ++ text ++ "\""))

end Settings

end Sluice
