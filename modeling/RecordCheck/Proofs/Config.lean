import RecordCheck.Config.Variables
import RecordCheck.Proofs.Text

/-!
# Policies by their names

A text names a policy if it is the policy's own text up to the case of letters, with blanks around it
(`Policy.NamedBy`); exactly such texts are read as the policy (`Policy.ofText_ok_iff`). The configuration that variables
select is told in the same way, clause by clause (`Config.SelectedBy`), and the only way for variables to select none is
a policy that no text of its kind names (`Config.ofVariables_error_iff`).
-/

namespace RecordCheck

/-- If all items have different names, the item of a given name is found among them. -/
theorem find?_eq_some_iff_named {α β : Type} [DecidableEq β] {items : List α} {name : α → β}
    (complete : ∀ item, item ∈ items) (injective : Function.Injective name) {wanted : β} {item : α} :
    (items.find? fun item => name item = wanted) = some item ↔ name item = wanted := by
  constructor
  · intro found
    have named := List.find?_some found
    exact of_decide_eq_true named
  · rintro rfl
    cases found : items.find? fun other => name other = name item with
    | none =>
        have missing := List.find?_eq_none.mp found item (complete item)
        exact absurd (decide_eq_true rfl) missing
    | some other =>
        have named := List.find?_some found
        rw [injective (of_decide_eq_true named)]

namespace Mode

theorem mem_all (mode : Mode) : mode ∈ all := by
  cases mode with
  | _ => decide

theorem text_injective : Function.Injective text := by
  intro mode mode' same
  cases mode <;> cases mode' <;> simp_all [text]

theorem ofVariable_eq_production_iff {text : String} : ofVariable text = production ↔ text = "production" := by
  unfold ofVariable
  split <;> simp_all

/-- The name of a mode selects it. -/
theorem ofVariable_text (mode : Mode) : ofVariable mode.text = mode := by
  cases mode with
  | _ => rfl

end Mode

namespace Policy

theorem mem_all (policy : Policy) : policy ∈ all := by
  cases policy with
  | _ => decide

theorem text_injective : Function.Injective text := by
  intro policy policy' same
  cases policy <;> cases policy' <;> simp_all [text]

/-- The text is that of the policy up to the case of ASCII letters, with blanks around it. -/
def NamedBy (policy : Policy) (text : String) : Prop :=
  ∃ word, Text.Trimmed text.toList word ∧ List.Forall₂ Text.SameLetter word policy.text.toList

theorem foldCase_text (policy : Policy) : Text.foldCase policy.text.toList = policy.text.toList := by
  cases policy with
  | _ => rfl

theorem parse?_eq_some_iff {text : String} {policy : Policy} : parse? text = some policy ↔ policy.NamedBy text := by
  have injective : Function.Injective fun policy : Policy => policy.text.toList := by
    intro policy policy' same
    exact text_injective (String.toList_inj.mp same)
  rw [parse?, find?_eq_some_iff_named mem_all injective, eq_comm, ← foldCase_text, Text.foldCase_eq_iff, NamedBy]
  simp only [← Text.trim_eq_iff, exists_eq_left']

theorem ofText_ok_iff {text : String} {policy : Policy} : ofText text = .ok policy ↔ policy.NamedBy text := by
  rw [← parse?_eq_some_iff, ofText]
  cases parse? text with
  | none => exact iff_of_false nofun nofun
  | some found => simp

theorem ofText_error_iff {text : String} {error : Config.Error} :
    ofText text = .error error ↔ error = .invalidPolicy text ∧ ∀ policy : Policy, ¬ policy.NamedBy text := by
  simp only [← parse?_eq_some_iff, ofText]
  cases parse? text with
  | none => simp [eq_comm]
  | some found =>
      refine iff_of_false nofun ?_
      rintro ⟨-, unnamed⟩
      exact unnamed found rfl

/-- The text of a policy names it. -/
theorem ofText_text (policy : Policy) : ofText policy.text = .ok policy := by
  cases policy with
  | _ => rfl

end Policy

namespace Config

/-- The configuration is the one that variables select: the mode is production if its variable says just this word. -/
structure SelectedBy (lookup : String → Option String) (config : Config) : Prop where
  mode : config.mode = .production ↔ lookup modeVariable = some "production"
  policyUnset : lookup policyVariable = none → config.policy = .allow
  policySet : ∀ text, lookup policyVariable = some text → config.policy.NamedBy text

variable {lookup : String → Option String}

/-- The mode that variables select. -/
def modeOf (lookup : String → Option String) : Mode := ((lookup modeVariable).map Mode.ofVariable).getD .development

theorem modeOf_eq_production_iff : modeOf lookup = .production ↔ lookup modeVariable = some "production" := by
  unfold modeOf
  cases lookup modeVariable with
  | none => exact iff_of_false nofun nofun
  | some text =>
      rw [Option.some_inj]
      exact Mode.ofVariable_eq_production_iff

theorem mode_eq_iff {mode mode' : Mode} : mode = mode' ↔ (mode = .production ↔ mode' = .production) := by
  cases mode <;> cases mode' <;> decide

/-- Variables select the mode in any case; the policy is the default if it is not set. -/
theorem ofVariables_of_none (unset : lookup policyVariable = none) : ofVariables lookup = .ok ⟨modeOf lookup, .allow⟩ := by
  simp only [ofVariables, unset]
  rfl

theorem ofVariables_of_some {text : String} (set : lookup policyVariable = some text) :
    ofVariables lookup = (Policy.ofText text).map fun policy => ⟨modeOf lookup, policy⟩ := by
  simp only [ofVariables, set]
  cases Policy.ofText text with
  | ok policy => rfl
  | error error => rfl

theorem ofVariables_ok_iff {config : Config} : ofVariables lookup = .ok config ↔ config.SelectedBy lookup := by
  obtain ⟨mode, policy⟩ := config
  cases chosen : lookup policyVariable with
  | none =>
      rw [ofVariables_of_none chosen, Except.ok.injEq, mk.injEq, mode_eq_iff, modeOf_eq_production_iff]
      constructor
      · rintro ⟨modes, rfl⟩
        refine ⟨modes.symm, fun _ => rfl, ?_⟩
        intro text set
        cases chosen.symm.trans set
      · rintro ⟨modes, unset, -⟩
        exact ⟨modes.symm, (unset chosen).symm⟩
  | some text =>
      rw [ofVariables_of_some chosen]
      cases read : Policy.ofText text with
      | error error =>
          refine iff_of_false nofun ?_
          rintro ⟨-, -, named⟩
          have found := Policy.ofText_ok_iff.mpr (named text chosen)
          rw [read] at found
          cases found
      | ok found =>
          rw [Except.map, Except.ok.injEq, mk.injEq, mode_eq_iff, modeOf_eq_production_iff]
          constructor
          · rintro ⟨modes, rfl⟩
            refine ⟨modes.symm, ?_, ?_⟩
            · intro unset
              cases chosen.symm.trans unset
            · intro other set
              obtain rfl := Option.some.inj (chosen.symm.trans set)
              exact Policy.ofText_ok_iff.mp read
          · rintro ⟨modes, -, named⟩
            have same := Policy.ofText_ok_iff.mpr (named text chosen)
            rw [read] at same
            exact ⟨modes.symm, Except.ok.inj same⟩

theorem ofVariables_error_iff {error : Error} :
    ofVariables lookup = .error error ↔
      ∃ text, lookup policyVariable = some text ∧ error = .invalidPolicy text ∧ ∀ policy : Policy, ¬ policy.NamedBy text := by
  cases chosen : lookup policyVariable with
  | none =>
      rw [ofVariables_of_none chosen]
      refine iff_of_false nofun ?_
      rintro ⟨text, set, -⟩
      cases set
  | some text =>
      have same : ofVariables lookup = .error error ↔ Policy.ofText text = .error error := by
        rw [ofVariables_of_some chosen]
        cases Policy.ofText text with
        | ok policy => exact iff_of_false nofun nofun
        | error cause => rw [Except.map, Except.error.injEq, Except.error.injEq]
      rw [same, Policy.ofText_error_iff]
      simp only [Option.some.injEq, exists_eq_left']

end Config

end RecordCheck
