import RecordCheck.Session

/-!
# Programs in a session

A program installs a configuration in its session or asks for the one that is there, guards components under it, and
renders the components that it guarded; meanwhile its environment may change. `Program.step` takes one action, and
`Program.run` gives what each of several actions comes to. Where the configuration comes from is decided by the first
action that installs one or needs one, which `Program.origin?` finds without a session.
-/

namespace RecordCheck

variable {ν ρ : Type}

/-- The values of variables; one that is not set has none. -/
abbrev Environment := String → Option String

/-- A session, the environment around it, and the components that were guarded in it, the oldest first. -/
structure Program (ν ρ : Type) where
  session : Session
  environment : Environment
  guarded : List (Guarded ν ρ)

namespace Program

/-- What a program does next. -/
inductive Action (ν ρ : Type) where
  /-- install a configuration -/
  | install (config : Config)
  /-- ask for the configuration -/
  | ask
  /-- guard a component under the configuration -/
  | guard (component : Component ν ρ)
  /-- render the component that was guarded at this place -/
  | render (place : Nat) (props : Props)
  /-- go on in another environment -/
  | move (environment : Environment)

namespace Action

/-- Whether the session has a configuration after the action in any case. -/
def settles : Action ν ρ → Bool
  | install _ | ask | guard _ => true
  | render .. | move _ => false

/-- The component that the action guards. -/
def component? : Action ν ρ → Option (Component ν ρ)
  | guard component => some component
  | _ => none

end Action

/-- What an action comes to. -/
inductive Answer (ν ρ : Type) where
  | installed
  | refused (error : Config.Error)
  | config (config : Config)
  | guarded (guarded : Guarded ν ρ)
  | rendered (outcome : Except Refusal ρ)
  | done

/-- A program that did nothing so far. -/
def start (environment : Environment) : Program ν ρ := ⟨.fresh, environment, []⟩

/-- Takes an action. -/
def step (program : Program ν ρ) : Action ν ρ → Traced (Entry ν) (Answer ν ρ × Program ν ρ)
  | .install config =>
      match program.session.install config with
      | .ok session => .pure (.installed, { program with session })
      | .error error => .pure (.refused error, program)
  | .ask =>
      ((program.session.config program.environment).mapNotes .event).bind fun found =>
        .pure (.config found.1, { program with session := found.2 })
  | .guard component =>
      ((program.session.guard program.environment component).mapNotes .event).bind fun found =>
        .pure (.guarded found.1,
          { program with session := found.2, guarded := program.guarded ++ [found.1] })
  | .render place props =>
      match program.guarded[place]? with
      | some guarded => (guarded.render props).bind fun outcome => .pure (.rendered outcome, program)
      | none => .pure (.done, program)
  | .move environment => .pure (.done, { program with environment })

/-- What an action comes to, with what is noted of it. -/
def outcome (program : Program ν ρ) (action : Action ν ρ) : Traced (Entry ν) (Answer ν ρ) :=
  ⟨(program.step action).result.1, (program.step action).notes⟩

/-- The program after some actions. -/
def after (program : Program ν ρ) : List (Action ν ρ) → Program ν ρ
  | [] => program
  | action :: rest => (program.step action).result.2.after rest

/-- What each of some actions comes to. -/
def run (program : Program ν ρ) : List (Action ν ρ) → List (Traced (Entry ν) (Answer ν ρ))
  | [] => []
  | action :: rest => program.outcome action :: (program.step action).result.2.run rest

theorem after_append (program : Program ν ρ) (before later : List (Action ν ρ)) :
    program.after (before ++ later) = (program.after before).after later := by
  induction before generalizing program with
  | nil => rfl
  | cons action rest ih => exact ih (program.step action).result.2

/-- An action comes to what it does in the program after the earlier ones. -/
theorem getElem?_run (program : Program ν ρ) (actions : List (Action ν ρ)) (i : Nat) :
    (program.run actions)[i]? = actions[i]?.map (program.after (actions.take i)).outcome := by
  induction actions generalizing program i with
  | nil => rfl
  | cons first rest ih =>
      cases i with
      | zero => rfl
      | succ i => exact ih (program.step first).result.2 i

/-- Where the configuration of a session comes from. -/
inductive Origin where
  /-- it was installed -/
  | installed (config : Config)
  /-- it was read from the environment -/
  | read (environment : Environment)

namespace Origin

/-- The configuration of that origin; an environment that cannot be read gives the default. -/
def config : Origin → Config
  | installed config => config
  | read environment =>
      match Config.ofVariables environment with
      | .ok config => config
      | .error _ => .development

/-- What is wrong with the environment from which the configuration was read. -/
def complaint? : Origin → Option Config.Error
  | installed _ => none
  | read environment =>
      match Config.ofVariables environment with
      | .ok _ => none
      | .error error => some error

/-- What is reported when the configuration is taken from here. -/
def complaints (origin : Origin) : List Event := origin.complaint?.toList.map .environmentIgnored

/-- Only a policy that cannot be read is wrong with an environment. -/
theorem complaint?_eq_some_iff {origin : Origin} {error : Config.Error} :
    origin.complaint? = some error ↔
      ∃ environment text, origin = .read environment ∧ environment Config.policyVariable = some text ∧
        Policy.parse? text = none ∧ error = .invalidPolicy text := by
  cases origin with
  | installed config => exact iff_of_false nofun (fun ⟨_, _, same, _⟩ => nomatch same)
  | read environment =>
      simp only [complaint?, Config.ofVariables, Policy.ofText]
      cases named : environment Config.policyVariable with
      | none => simp [named]
      | some text =>
          cases read : Policy.parse? text with
          | none => simp [named, read, eq_comm]
          | some policy => simp [named, read]

end Origin

/-- The environment after some actions. -/
def environmentAfter (environment : Environment) : List (Action ν ρ) → Environment
  | [] => environment
  | .move environment :: rest => environmentAfter environment rest
  | _ :: rest => environmentAfter environment rest

/-- The first action that installs a configuration, or needs one in the environment of its time, is the origin. -/
def origin? (environment : Environment) : List (Action ν ρ) → Option Origin
  | [] => none
  | .install config :: _ => some (.installed config)
  | .ask :: _ | .guard _ :: _ => some (.read environment)
  | .render .. :: rest => origin? environment rest
  | .move environment :: rest => origin? environment rest

theorem origin?_append (environment : Environment) (before later : List (Action ν ρ)) :
    origin? environment (before ++ later) =
      (origin? environment before).or (origin? (environmentAfter environment before) later) := by
  induction before generalizing environment with
  | nil => rfl
  | cons action rest ih =>
      cases action with
      | install | ask | guard => rfl
      | render => exact ih environment
      | move environment => exact ih environment

/-- What is decided by some actions stays so. -/
theorem origin?_append_of_some {environment : Environment} {before : List (Action ν ρ)} {origin : Origin}
    (known : origin? environment before = some origin) (later : List (Action ν ρ)) :
    origin? environment (before ++ later) = some origin := by
  rw [origin?_append, known, Option.some_or]

/-- An action that needs a configuration makes its environment the origin, unless there is one. -/
theorem origin?_append_read {action : Action ν ρ}
    (reads : ∀ environment rest, origin? environment (action :: rest) = some (.read environment))
    (environment : Environment) (before later : List (Action ν ρ)) :
    origin? environment (before ++ action :: later) =
      some ((origin? environment before).getD (.read (environmentAfter environment before))) := by
  rw [origin?_append, reads, Option.or_some]

theorem environmentAfter_append (environment : Environment) (before later : List (Action ν ρ)) :
    environmentAfter environment (before ++ later) = environmentAfter (environmentAfter environment before) later := by
  induction before generalizing environment with
  | nil => rfl
  | cons action rest ih =>
      cases action with
      | move environment => exact ih environment
      | _ => exact ih environment

/-- There is an origin as soon as an action settles the configuration. -/
theorem isSome_origin? (environment : Environment) (actions : List (Action ν ρ)) :
    (origin? environment actions).isSome = actions.any Action.settles := by
  induction actions generalizing environment with
  | nil => rfl
  | cons action rest ih =>
      cases action with
      | install | ask | guard => rfl
      | render => exact ih environment
      | move environment => exact ih environment

section

variable {known : Option Origin}

/-- A session has the configuration of a known origin, and reads the environment if there is none. -/
theorem config_eq {session : Session} (same : session.config? = known.map Origin.config) (environment : Environment) :
    session.config environment =
      ⟨((known.getD (.read environment)).config, ⟨some (known.getD (.read environment)).config⟩),
        if known.isSome then [] else (known.getD (.read environment)).complaints⟩ := by
  obtain ⟨config?⟩ := session
  obtain rfl : config? = known.map Origin.config := same
  cases known with
  | some origin => rfl
  | none =>
      simp only [Session.config, Session.readEnvironment, Option.map_none, Origin.complaints, Origin.complaint?,
        Option.getD_none, Origin.config]
      cases Config.ofVariables environment with
      | ok => rfl
      | error => rfl

variable {program : Program ν ρ} (same : program.session.config? = known.map Origin.config)
include same

/-- A configuration is installed if no origin is known, and otherwise nothing happens. -/
theorem step_install (config : Config) :
    program.step (.install config) =
      if known.isSome then .pure (.refused .alreadyInstalled, program)
      else .pure (.installed, { program with session := ⟨some config⟩ }) := by
  simp only [step, Session.install, same]
  cases known with
  | some origin => rfl
  | none => rfl

theorem step_ask :
    program.step .ask =
      ⟨(.config (known.getD (.read program.environment)).config,
          { program with session := ⟨some (known.getD (.read program.environment)).config⟩ }),
        if known.isSome then [] else (known.getD (.read program.environment)).complaints.map .event⟩ := by
  simp only [step, config_eq same, Traced.mapNotes, Traced.bind, Traced.pure, List.append_nil]
  cases known with
  | some origin => rfl
  | none => rfl

theorem step_guard (component : Component ν ρ) :
    program.step (.guard component) =
      ⟨(.guarded (component.guard (known.getD (.read program.environment)).config),
          { program with
            session := ⟨some (known.getD (.read program.environment)).config⟩
            guarded := program.guarded ++ [component.guard (known.getD (.read program.environment)).config] }),
        if known.isSome then [] else (known.getD (.read program.environment)).complaints.map .event⟩ := by
  simp only [step, Session.guard, config_eq same, Traced.mapNotes, Traced.bind, Traced.pure, List.append_nil]
  cases known with
  | some origin => rfl
  | none => rfl

end

theorem step_render {program : Program ν ρ} {place : Nat} {guarded : Guarded ν ρ}
    (found : program.guarded[place]? = some guarded) (props : Props) :
    program.step (.render place props) =
      ⟨(.rendered (guarded.render props).result, program), (guarded.render props).notes⟩ := by
  simp only [step, found, Traced.bind, Traced.pure, List.append_nil]

/-- Whatever is rendered, and whether there is anything to render, the program goes on as before. -/
theorem result_step_render (program : Program ν ρ) (place : Nat) (props : Props) :
    (program.step (.render place props)).result.2 = program := by
  cases found : program.guarded[place]? with
  | none => simp only [step, found, Traced.pure]
  | some guarded => rw [step_render found]

end Program

end RecordCheck
