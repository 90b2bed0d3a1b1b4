import Mathlib.Data.List.Forall2
import Mathlib.Data.List.Induction
import RecordCheck.Proofs.Component
import RecordCheck.Proofs.Session.Program

/-!
# The configuration of a session is written once

Whatever a program does and however its environment changes, its session has at most one configuration: that of the
origin, which the first action that installs one or needs one decides. `Program.Tracks` says what the program looks like
after some actions, one action keeps it (`Program.Tracks.step`), and `Program.writeOnce` gives what every action of a
run comes to.
-/

namespace RecordCheck

variable {ν ρ α : Type}

/-- What is wrong with the environment of which the event tells. -/
def Event.ignored? : Event → Option Config.Error
  | environmentIgnored error => some error
  | _ => none

/-- The warnings of environments that are not usable. -/
def Traced.ignored (run : Traced (Entry ν) α) : List Config.Error := (run.eventsAt .warn).filterMap Event.ignored?

/-- A guarded component does not look at the environment. -/
theorem Guarded.ignored_render (guarded : Guarded ν ρ) (props : Props) : (guarded.render props).ignored = [] := by
  obtain ⟨⟨mode, policy⟩, component⟩ := guarded
  unfold Traced.ignored
  cases mode with
  | production =>
      have silent : ((component.guard ⟨.production, policy⟩).render props).eventsAt .warn = [] :=
        Component.eventsAt_production policy .warn
      exact congrArg (List.filterMap Event.ignored?) silent
  | development =>
      cases outcome : (component.schema.validate props).result with
      | error refusal =>
          exact congrArg (List.filterMap Event.ignored?) (Component.eventsAt_warn_of_invalid outcome policy)
      | ok =>
          refine (congrArg (List.filterMap Event.ignored?) (Component.eventsAt_warn_of_valid outcome policy)).trans ?_
          cases policy with
          | allow => rfl
          | warn => simp [component.eventsAt_warn, List.filterMap_map, Event.ignored?]
          | deny =>
              simp only [Component.applyPolicy]
              cases component.schema.undeclared props with
              | nil => rfl
              | cons => rfl

namespace Program

/-- The component is guarded under the configuration of the origin that the actions decide. -/
def GuardedUnder (environment : Environment) (actions : List (Action ν ρ)) (component : Component ν ρ)
    (guarded : Guarded ν ρ) : Prop :=
  ∃ origin, origin? environment actions = some origin ∧ guarded = component.guard origin.config

/-- A component keeps its guard when the program goes on. -/
theorem GuardedUnder.append {environment : Environment} {before : List (Action ν ρ)} {component : Component ν ρ}
    {guarded : Guarded ν ρ} (under : GuardedUnder environment before component guarded) (later : List (Action ν ρ)) :
    GuardedUnder environment (before ++ later) component guarded := by
  obtain ⟨origin, known, same⟩ := under
  exact ⟨origin, origin?_append_of_some known later, same⟩

/-- What a program looks like that took some actions in an environment. -/
structure Tracks (environment : Environment) (actions : List (Action ν ρ)) (program : Program ν ρ) : Prop where
  config? : program.session.config? = (origin? environment actions).map Origin.config
  environment_eq : program.environment = environmentAfter environment actions
  guarded : List.Forall₂ (GuardedUnder environment actions) (actions.filterMap Action.component?) program.guarded

namespace Tracks

variable {environment : Environment} {actions : List (Action ν ρ)} {program : Program ν ρ}

theorem guarded_append (tracks : Tracks environment actions program) (action : Action ν ρ) :
    List.Forall₂ (GuardedUnder environment (actions ++ [action])) (actions.filterMap Action.component?)
      program.guarded :=
  tracks.guarded.imp fun _ _ under => under.append [action]

/-- Of an action that guards nothing only the configuration is left to be tracked. -/
theorem extend (tracks : Tracks environment actions program) {action : Action ν ρ} {next : Program ν ρ}
    (silent : action.component? = none)
    (config : next.session.config? = (origin? environment (actions ++ [action])).map Origin.config)
    (moved : next.environment = environmentAfter program.environment [action])
    (kept : next.guarded = program.guarded) : Tracks environment (actions ++ [action]) next := by
  refine ⟨config, ?_, ?_⟩
  · rw [moved, environmentAfter_append, tracks.environment_eq]
  · rw [kept, List.filterMap_append, List.filterMap_cons_none silent, List.filterMap_nil, List.append_nil]
    exact tracks.guarded_append action

/-- A component is found at its place behind the guard of the origin. -/
theorem guarded_at (tracks : Tracks environment actions program) {place : Nat} {component : Component ν ρ}
    (placed : (actions.filterMap Action.component?)[place]? = some component) :
    ∃ origin, origin? environment actions = some origin ∧
      program.guarded[place]? = some (component.guard origin.config) := by
  obtain ⟨bound, rfl⟩ := List.getElem?_eq_some_iff.mp placed
  have bound' : place < program.guarded.length := tracks.guarded.length_eq ▸ bound
  obtain ⟨origin, decided, same⟩ := tracks.guarded.get bound bound'
  exact ⟨origin, decided, List.getElem?_eq_some_iff.mpr ⟨bound', same⟩⟩

/-- One action keeps track. -/
theorem step (tracks : Tracks environment actions program) (action : Action ν ρ) :
    Tracks environment (actions ++ [action]) (program.step action).result.2 := by
  cases action with
  | install config =>
      rw [step_install tracks.config?]
      cases known : origin? environment actions with
      | some origin =>
          refine tracks.extend rfl ?_ rfl rfl
          rw [origin?_append_of_some known]
          exact tracks.config?.trans (congrArg _ known)
      | none =>
          refine tracks.extend rfl ?_ rfl rfl
          rw [origin?_append, known]
          rfl
  | ask =>
      rw [step_ask tracks.config?]
      refine tracks.extend rfl ?_ rfl rfl
      rw [origin?_append_read fun _ _ => rfl, tracks.environment_eq]
      rfl
  | guard component =>
      rw [step_guard tracks.config?]
      have read : origin? environment (actions ++ [.guard component]) =
          some ((origin? environment actions).getD (.read program.environment)) := by
        rw [origin?_append_read fun _ _ => rfl, tracks.environment_eq]
      refine ⟨?_, ?_, ?_⟩
      · rw [read]
        rfl
      · rw [environmentAfter_append]
        exact tracks.environment_eq
      · rw [List.filterMap_append]
        exact List.rel_append (tracks.guarded_append _) (.cons ⟨_, read, rfl⟩ .nil)
  | render place props =>
      rw [result_step_render]
      refine tracks.extend rfl ?_ rfl rfl
      rw [origin?_append, origin?, origin?, Option.or_none]
      exact tracks.config?
  | move next =>
      refine tracks.extend rfl ?_ rfl rfl
      rw [origin?_append, origin?, origin?, Option.or_none]
      exact tracks.config?

end Tracks

/-- A program that starts afresh is tracked by what it did. -/
theorem tracks_after (environment : Environment) (actions : List (Action ν ρ)) :
    Tracks environment actions ((start environment).after actions) := by
  induction actions using List.reverseRecOn with
  | nil => exact ⟨rfl, rfl, .nil⟩
  | append_singleton before action ih =>
      rw [after_append]
      exact ih.step action

/-- A warning of the origin is all that its complaints come to. -/
theorem ignored_complaints (origin : Origin) (a : α) :
    (⟨a, origin.complaints.map .event⟩ : Traced (Entry ν) α).ignored = origin.complaint?.toList := by
  unfold Traced.ignored Origin.complaints
  cases origin.complaint? with
  | none => rfl
  | some error => rfl

/-- A program with a configuration ignores no environment, and one without ignores that of its origin at most. -/
theorem ignored_run (program : Program ν ρ) (known : Option Origin)
    (same : program.session.config? = known.map Origin.config) (actions : List (Action ν ρ)) :
    (program.run actions).flatMap Traced.ignored =
      if known.isSome then []
      else ((origin? program.environment actions).bind Origin.complaint?).toList := by
  induction actions generalizing program known with
  | nil => cases known <;> rfl
  | cons action rest ih =>
      rw [run, List.flatMap_cons, outcome]
      cases action with
      | install config =>
          rw [step_install same]
          cases known with
          | some origin => exact ih program (some origin) same
          | none => exact ih _ (some (.installed config)) rfl
      | ask =>
          rw [step_ask same]
          cases known with
          | some origin => exact ih _ (some origin) rfl
          | none =>
              rw [ih _ (some (.read program.environment)) rfl]
              exact (List.append_nil _).trans (ignored_complaints _ _)
      | guard component =>
          rw [step_guard same]
          cases known with
          | some origin => exact ih _ (some origin) rfl
          | none =>
              rw [ih _ (some (.read program.environment)) rfl]
              exact (List.append_nil _).trans (ignored_complaints _ _)
      | render place props =>
          rw [result_step_render, ih program known same]
          cases found : program.guarded[place]? with
          | none =>
              simp only [step, found]
              rfl
          | some guarded =>
              rw [step_render found]
              exact congrArg (· ++ _) (guarded.ignored_render props)
      | move environment => exact ih { program with environment } known same

/-- What the actions of a program come to that starts afresh in an environment. -/
structure WriteOnce (environment : Environment) (actions : List (Action ν ρ)) : Prop where
  /-- A configuration is installed if no earlier action installed one or needed one, and refused otherwise. -/
  install (i : Nat) (config : Config) (taken : actions[i]? = some (.install config)) :
    ((start environment).run actions)[i]? =
      some (.pure (if (actions.take i).any Action.settles then .refused .alreadyInstalled else .installed))
  /-- Nothing changes if it is refused. -/
  refused (i : Nat) (config : Config) (taken : actions[i]? = some (.install config))
    (settled : (actions.take i).any Action.settles) :
    (start environment).after (actions.take (i + 1)) = (start environment).after (actions.take i)
  /-- Whoever asks gets the configuration of the one origin; the first need of it reports what is wrong with it. -/
  ask (i : Nat) (taken : actions[i]? = some .ask) :
    ∃ origin, origin? environment actions = some origin ∧
      ((start environment).run actions)[i]? =
        some ⟨.config origin.config,
          if (actions.take i).any Action.settles then [] else origin.complaints.map .event⟩
  /-- Every component is guarded under that configuration. -/
  guard (i : Nat) (component : Component ν ρ) (taken : actions[i]? = some (.guard component)) :
    ∃ origin, origin? environment actions = some origin ∧
      ((start environment).run actions)[i]? =
        some ⟨.guarded (component.guard origin.config),
          if (actions.take i).any Action.settles then [] else origin.complaints.map .event⟩
  /-- A guarded component is rendered as one that was given the configuration of the origin. -/
  render (i place : Nat) (props : Props) (component : Component ν ρ)
    (taken : actions[i]? = some (.render place props))
    (placed : ((actions.take i).filterMap Action.component?)[place]? = some component) :
    ∃ origin, origin? environment actions = some origin ∧
      ((start environment).run actions)[i]? =
        some ⟨.rendered ((component.guard origin.config).render props).result,
          ((component.guard origin.config).render props).notes⟩
  /-- At most one environment is ignored in the run: that of the origin, if its policy cannot be read. -/
  ignored :
    ((start environment).run actions).flatMap Traced.ignored =
      ((origin? environment actions).bind Origin.complaint?).toList
  /-- An environment is ignored if it was to be the origin and names no policy that can be read, and only then. -/
  ignored_iff (error : Config.Error) :
    error ∈ ((start environment).run actions).flatMap Traced.ignored ↔
      ∃ environment' text, origin? environment actions = some (.read environment') ∧
        environment' Config.policyVariable = some text ∧ Policy.parse? text = none ∧ error = .invalidPolicy text

section

variable {environment : Environment} {actions : List (Action ν ρ)} {action : Action ν ρ} {i : Nat}

/-- The actions before and after one that is taken. -/
theorem take_append_cons_drop (taken : actions[i]? = some action) :
    actions.take i ++ action :: actions.drop (i + 1) = actions := by
  obtain ⟨bound, rfl⟩ := List.getElem?_eq_some_iff.mp taken
  rw [List.getElem_cons_drop, List.take_append_drop]

/-- What an action comes to in a run, seen in the program that tracks the earlier ones. -/
theorem getElem?_run_start (taken : actions[i]? = some action) :
    ((start environment).run actions)[i]? =
      some (((start environment).after (actions.take i)).outcome action) := by
  rw [getElem?_run, taken, Option.map_some]

/-- An action that needs a configuration finds the origin, or makes its environment the origin. -/
theorem origin?_of_read (taken : actions[i]? = some action)
    (reads : ∀ environment rest, origin? environment (action :: rest) = some (.read environment)) :
    origin? environment actions =
      some ((origin? environment (actions.take i)).getD
        (.read ((start environment).after (actions.take i)).environment)) := by
  rw [(tracks_after environment (actions.take i)).environment_eq,
    ← origin?_append_read reads environment _ (actions.drop (i + 1)), take_append_cons_drop taken]

end

/-- Whatever a program does that starts afresh, the configuration of its session is written once. -/
theorem writeOnce (environment : Environment) (actions : List (Action ν ρ)) : WriteOnce environment actions where
  install i config taken := by
    rw [getElem?_run_start taken, outcome, step_install (tracks_after environment (actions.take i)).config?,
      isSome_origin?]
    cases (actions.take i).any Action.settles <;> rfl
  refused i config taken settled := by
    obtain ⟨bound, same⟩ := List.getElem?_eq_some_iff.mp taken
    rw [List.take_succ_eq_append_getElem bound, same, after_append, after, after,
      step_install (tracks_after environment (actions.take i)).config?, isSome_origin?, if_pos settled]
    rfl
  ask i taken := by
    refine ⟨_, origin?_of_read taken fun _ _ => rfl, ?_⟩
    rw [getElem?_run_start taken, outcome, step_ask (tracks_after environment (actions.take i)).config?,
      isSome_origin?]
  guard i component taken := by
    refine ⟨_, origin?_of_read taken fun _ _ => rfl, ?_⟩
    rw [getElem?_run_start taken, outcome, step_guard (tracks_after environment (actions.take i)).config?,
      isSome_origin?]
  render i place props component taken placed := by
    obtain ⟨origin, decided, found⟩ := (tracks_after environment (actions.take i)).guarded_at placed
    refine ⟨origin, ?_, ?_⟩
    · rw [← take_append_cons_drop taken]
      exact origin?_append_of_some decided _
    · rw [getElem?_run_start taken, outcome, step_render found]
  ignored := ignored_run (start environment) none rfl actions
  ignored_iff error := by
    rw [ignored_run (start environment) none rfl actions]
    simp only [Option.isSome_none, Bool.false_eq_true, if_false, Option.mem_toList, Option.bind_eq_some_iff,
      Origin.complaint?_eq_some_iff]
    constructor
    · rintro ⟨origin, decided, environment', text, rfl, unread⟩
      exact ⟨environment', text, decided, unread⟩
    · rintro ⟨environment', text, decided, unread⟩
      exact ⟨_, decided, environment', text, rfl, unread⟩

/-- An environment whose policy cannot be read. -/
def loud : Environment := fun name => if name = Config.policyVariable then some "loud" else none

/-- An environment that selects production. -/
def release : Environment := fun name => if name = Config.modeVariable then some "production" else none

/-- A program that asks before it installs, and moves on in between. -/
def lateInstall : List (Action Unit String) :=
  [.ask, .move release, .install .production, .guard Component.chart, .render 0 Component.colored, .ask]

theorem writeOnce_lateInstall :
    origin? loud lateInstall = some (.read loud) ∧
      ((start loud).run lateInstall)[0]? =
        some ⟨.config .development, [.event (.environmentIgnored (.invalidPolicy "loud"))]⟩ ∧
      ((start loud).run lateInstall)[2]? = some (.pure (.refused .alreadyInstalled)) ∧
      (start loud).after (lateInstall.take 3) = (start loud).after (lateInstall.take 2) ∧
      ((start loud).run lateInstall)[3]? = some (.pure (.guarded (Component.chart.guard .development))) ∧
      (((start loud).run lateInstall)[4]?.map Traced.result) = some (.rendered (.ok "a chart")) ∧
      ((start loud).run lateInstall)[5]? = some (.pure (.config .development)) ∧
      ((start loud).run lateInstall).flatMap Traced.ignored = [.invalidPolicy "loud"] := by
  have once := writeOnce loud lateInstall
  have decided : origin? loud lateInstall = some (.read loud) := rfl
  obtain ⟨first, decidedFirst, asked⟩ := once.ask 0 rfl
  obtain ⟨second, decidedSecond, guarded⟩ := once.guard 3 Component.chart rfl
  obtain ⟨third, decidedThird, rendered⟩ := once.render 4 0 Component.colored Component.chart rfl rfl
  obtain ⟨fourth, decidedFourth, askedAgain⟩ := once.ask 5 rfl
  cases decidedFirst
  cases decidedSecond
  cases decidedThird
  cases decidedFourth
  refine ⟨decided, asked, once.install 2 .production rfl, once.refused 2 .production rfl rfl, guarded, ?_, askedAgain,
    once.ignored⟩
  rw [rendered]
  rfl

end Program

end RecordCheck
