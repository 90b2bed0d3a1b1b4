import RecordCheck.Component
import RecordCheck.Proofs.Schema.Log

/-!
# Guarded rendering

A component is guarded under every configuration in the same way, which `Component.Gated` says at once: in production
it is rendered without checks, in development only properties that pass the schema and the policy are rendered. That
a component is rendered once or not at all is read off the notes of the watched component.
-/

namespace RecordCheck

variable {ν ρ : Type}

namespace Component

/-- The component that notes its renders and the runs of its fields. -/
def watched (component : Component ν ρ) : Component (Watched ν) ρ where
  name := component.name
  schema := component.schema.watched
  render props := (Traced.note (.rendered props)).bind fun _ => (component.render props).mapNotes .own

theorem unwatched_applyPolicy (component : Component ν ρ) (policy : Policy) (props : Props) :
    (component.watched.applyPolicy policy props).unwatched = component.applyPolicy policy props := by
  have same : component.watched.schema.undeclared props = component.schema.undeclared props :=
    component.schema.undeclared_watched props
  unfold applyPolicy
  rw [same]
  cases policy with
  | allow => rfl
  | warn =>
      simp only [Traced.unwatched, Traced.filterMapNotes, List.filterMap_map]
      exact congrArg (Traced.mk _) (congrFun List.filterMap_eq_map' _)
  | deny => cases component.schema.undeclared props <;> rfl

theorem renders_applyPolicy (component : Component (Watched ν) ρ) (policy : Policy) (props : Props) :
    (component.applyPolicy policy props).renders = [] := by
  unfold applyPolicy
  cases policy with
  | allow => rfl
  | warn =>
      apply List.filterMap_eq_nil_iff.mpr
      intro entry member
      obtain ⟨name, -, rfl⟩ := List.mem_map.mp member
      rfl
  | deny => cases component.schema.undeclared props <;> rfl

end Component

namespace Guarded

/-- The checks of the properties, by the schema and by the policy. -/
def inspect (guarded : Guarded ν ρ) (props : Props) : Traced (Entry ν) (Except Refusal Unit) :=
  (guarded.component.schema.validate props).andThen
    fun _ => guarded.component.applyPolicy guarded.config.policy props

/-- The render behind the checks. -/
def inner (guarded : Guarded ν ρ) (props : Props) : Traced (Entry ν) (Except Refusal ρ) :=
  ((guarded.component.render props).mapNotes .note).bind fun output => .pure (.ok output)

theorem render_of_production (guarded : Guarded ν ρ) (production : guarded.config.isProduction = true)
    (props : Props) :
    guarded.render props =
      (Traced.note (.event (.checksSkipped guarded.component.name))).bind fun _ => guarded.inner props :=
  if_pos production

theorem render_of_development (guarded : Guarded ν ρ) (development : guarded.config.isProduction = false)
    (props : Props) :
    guarded.render props = (guarded.inspect props).bind fun outcome =>
      match outcome with
      | .ok () => guarded.inner props
      | .error refusal => .pure (.error refusal) :=
  if_neg (Bool.eq_false_iff.mp development)

/-- The same guard around the watched component. -/
def watched (guarded : Guarded ν ρ) : Guarded (Watched ν) ρ := guarded.component.watched.guard guarded.config

theorem unwatched_inspect (guarded : Guarded ν ρ) (props : Props) :
    (guarded.watched.inspect props).unwatched = guarded.inspect props := by
  have validated : (guarded.watched.component.schema.validate props).unwatched =
      guarded.component.schema.validate props := guarded.component.schema.unwatched_validate props
  have policed : (guarded.watched.component.applyPolicy guarded.watched.config.policy props).unwatched =
      guarded.component.applyPolicy guarded.config.policy props := guarded.component.unwatched_applyPolicy _ props
  rw [inspect, Traced.unwatched_andThen, validated, policed, inspect]

theorem unwatched_inner (guarded : Guarded ν ρ) (props : Props) :
    (guarded.watched.inner props).unwatched = guarded.inner props := by
  have rendered : ((guarded.watched.component.render props).mapNotes Entry.note).unwatched =
      (guarded.component.render props).mapNotes .note := Traced.unwatched_own (guarded.component.render props)
  rw [inner, Traced.unwatched_bind, rendered]
  rfl

/-- A watch changes neither the result of a guarded render nor what is noted of it otherwise. -/
theorem unwatched_render (guarded : Guarded ν ρ) (props : Props) :
    (guarded.watched.render props).unwatched = guarded.render props := by
  cases mode : guarded.config.isProduction with
  | true =>
      rw [guarded.watched.render_of_production mode, guarded.render_of_production mode, Traced.unwatched_bind,
        guarded.unwatched_inner]
      rfl
  | false =>
      rw [guarded.watched.render_of_development mode, guarded.render_of_development mode, Traced.unwatched_bind,
        guarded.unwatched_inspect]
      congr 1
      funext outcome
      cases outcome with
      | ok => exact guarded.unwatched_inner props
      | error => rfl

theorem eventsAt_inner (guarded : Guarded ν ρ) (props : Props) (level : Level) :
    (guarded.inner props).eventsAt level = [] := by
  rw [inner, Traced.eventsAt_bind, Traced.eventsAt_mapNotes_note]
  rfl

theorem inner_watched (guarded : Guarded ν ρ) (props : Props) :
    guarded.watched.inner props =
      (Traced.note (.note (.rendered props))).bind fun _ =>
        (((guarded.component.render props).mapNotes Watched.own).mapNotes Entry.note).bind
          fun output => .pure (.ok output) :=
  rfl

theorem renders_inner_watched (guarded : Guarded ν ρ) (props : Props) :
    (guarded.watched.inner props).renders = [props] := by
  rw [inner_watched, Traced.renders_bind, Traced.renders_bind, Traced.renders_own]
  rfl

theorem checks_inner_watched (guarded : Guarded ν ρ) (props : Props) :
    (guarded.watched.inner props).checks = [] := by
  rw [inner_watched, Traced.checks_bind, Traced.checks_bind, Traced.checks_own]
  rfl

theorem inspect_of_invalid {guarded : Guarded ν ρ} {props : Props} {refusal : Refusal}
    (invalid : (guarded.component.schema.validate props).result = .error refusal) :
    guarded.inspect props = guarded.component.schema.validate props := by
  simp only [inspect, Traced.andThen, invalid]

theorem inspect_of_valid {guarded : Guarded ν ρ} {props : Props}
    (valid : (guarded.component.schema.validate props).result = .ok ()) :
    guarded.inspect props = (guarded.component.schema.validate props).bind
      fun _ => guarded.component.applyPolicy guarded.config.policy props := by
  simp only [inspect, Traced.andThen, valid]
  rfl

theorem renders_inspect_watched (guarded : Guarded ν ρ) (props : Props) :
    (guarded.watched.inspect props).renders = [] := by
  have quiet : (guarded.watched.component.schema.validate props).renders = [] :=
    guarded.component.schema.renders_validate_watched props
  cases outcome : (guarded.watched.component.schema.validate props).result with
  | ok => rw [inspect_of_valid outcome, Traced.renders_bind, quiet, Component.renders_applyPolicy, List.nil_append]
  | error refusal => rw [inspect_of_invalid outcome, quiet]

/-- In development the properties are rendered if they pass the checks. -/
theorem result_of_development (guarded : Guarded ν ρ) (development : guarded.config.isProduction = false)
    (props : Props) :
    (guarded.render props).result =
      (guarded.inspect props).result.map fun _ => (guarded.component.render props).result := by
  rw [guarded.render_of_development development, Traced.bind]
  cases (guarded.inspect props).result with
  | ok => rfl
  | error refusal => rfl

theorem eventsAt_of_development (guarded : Guarded ν ρ) (development : guarded.config.isProduction = false)
    (props : Props) (level : Level) :
    (guarded.render props).eventsAt level = (guarded.inspect props).eventsAt level := by
  rw [guarded.render_of_development development, Traced.eventsAt_bind]
  cases (guarded.inspect props).result with
  | ok => rw [guarded.eventsAt_inner, List.append_nil]
  | error refusal => exact List.append_nil _

/-- The properties are rendered once if the result is the output of a render, and never otherwise. -/
theorem renders_render_watched (guarded : Guarded ν ρ) (props : Props) :
    (guarded.watched.render props).renders = if (guarded.render props).result.isOk then [props] else [] := by
  cases mode : guarded.config.isProduction with
  | true =>
      rw [guarded.watched.render_of_production mode, guarded.render_of_production mode, Traced.renders_bind,
        guarded.renders_inner_watched]
      rfl
  | false =>
      have same : (guarded.watched.inspect props).result = (guarded.inspect props).result :=
        congrArg Traced.result (guarded.unwatched_inspect props)
      rw [guarded.watched.render_of_development mode, guarded.result_of_development mode, Traced.renders_bind,
        guarded.renders_inspect_watched, same, List.nil_append]
      cases (guarded.inspect props).result with
      | ok => exact guarded.renders_inner_watched props
      | error => rfl

end Guarded

namespace Component

/-- Of several properties that are not declared the first is refused. -/
theorem result_deny (component : Component ν ρ) (props : Props) :
    (component.applyPolicy .deny props).result =
      match (component.schema.undeclared props).head? with
      | none => .ok ()
      | some name => .error (.undeclared component.name name) := by
  unfold applyPolicy
  cases component.schema.undeclared props with
  | nil => rfl
  | cons first rest => rfl

theorem eventsAt_warn (component : Component ν ρ) (props : Props) :
    (component.applyPolicy .warn props).eventsAt .warn =
      (component.schema.undeclared props).map (.undeclaredProperty component.name) := by
  simp [applyPolicy, Traced.eventsAt, List.filterMap_map, Function.comp_def, Entry.event?, Event.level]

/-- How a component is rendered behind a guard, whatever the configuration of the guard. -/
structure Gated (component : Component ν ρ) (props : Props) : Prop where
  /-- What the watch tells of renders and of runs of fields, it tells of the guarded component itself. -/
  unwatched (config : Config) :
    ((component.guard config).watched.render props).unwatched = (component.guard config).render props
  /-- Production skips all checks and says so, once. -/
  production (policy : Policy) :
    ((component.guard ⟨.production, policy⟩).render props).result = .ok (component.render props).result ∧
      ((component.guard ⟨.production, policy⟩).watched.render props).renders = [props] ∧
      ((component.guard ⟨.production, policy⟩).watched.render props).checks = [] ∧
      ((component.guard ⟨.production, policy⟩).render props).eventsAt .trace = [.checksSkipped component.name] ∧
      ((component.guard ⟨.production, policy⟩).render props).eventsAt .debug = [] ∧
      ((component.guard ⟨.production, policy⟩).render props).eventsAt .warn = []
  valid_or_invalid :
    (component.schema.validate props).result = .ok () ∨
      ∃ diagnostic, (component.schema.validate props).result = .error (.invalid diagnostic)
  /-- The policy has no say in what the schema refuses. -/
  invalid (policy : Policy) (diagnostic : Diagnostic)
    (failure : (component.schema.validate props).result = .error (.invalid diagnostic)) :
    ((component.guard ⟨.development, policy⟩).render props).result = .error (.invalid diagnostic) ∧
      ((component.guard ⟨.development, policy⟩).render props).eventsAt .warn = []
  /-- The first of the properties that are not declared is named, in supply order. -/
  deny_refuses (valid : (component.schema.validate props).result = .ok ()) (name : String) :
    ((component.guard ⟨.development, .deny⟩).render props).result = .error (.undeclared component.name name) ↔
      props.keys.find? (fun key => key ∉ component.schema.keys) = some name
  deny_renders (valid : (component.schema.validate props).result = .ok ())
    (declared : ∀ key ∈ props.keys, key ∈ component.schema.keys) :
    ((component.guard ⟨.development, .deny⟩).render props).result = .ok (component.render props).result
  /-- Each of the properties that are not declared is warned of once, in supply order. -/
  warn (valid : (component.schema.validate props).result = .ok ()) :
    ((component.guard ⟨.development, .warn⟩).render props).result = .ok (component.render props).result ∧
      ((component.guard ⟨.development, .warn⟩).render props).eventsAt .warn =
        (props.keys.filter fun key => key ∉ component.schema.keys).map (.undeclaredProperty component.name)
  /-- The component is rendered once if an output is returned, and never otherwise. -/
  renders (config : Config) :
    ((component.guard config).watched.render props).renders =
      if ((component.guard config).render props).result.isOk then [props] else []
  allow_eq_warn (mode : Mode) :
    ((component.guard ⟨mode, .allow⟩).render props).result = ((component.guard ⟨mode, .warn⟩).render props).result
  deny_ok_iff (mode : Mode) (output : ρ) :
    ((component.guard ⟨mode, .deny⟩).render props).result = .ok output ↔
      ((component.guard ⟨mode, .warn⟩).render props).result = .ok output ∧
        ((component.guard ⟨mode, .warn⟩).render props).eventsAt .warn = []

section

variable {component : Component ν ρ} {props : Props}

theorem eventsAt_production (policy : Policy) (level : Level) :
    ((component.guard ⟨.production, policy⟩).render props).eventsAt level =
      if level = .trace then [.checksSkipped component.name] else [] := by
  rw [Guarded.render_of_production _ rfl, Traced.eventsAt_bind, Guarded.eventsAt_inner, List.append_nil]
  cases level with
  | trace => rfl
  | debug => rfl
  | warn => rfl

theorem checks_production (policy : Policy) :
    ((component.guard ⟨.production, policy⟩).watched.render props).checks = [] := by
  rw [Guarded.render_of_production _ rfl, Traced.checks_bind, Guarded.checks_inner_watched]
  rfl

theorem result_production (policy : Policy) :
    ((component.guard ⟨.production, policy⟩).render props).result = .ok (component.render props).result := by
  rw [Guarded.render_of_production _ rfl]
  rfl

theorem result_of_invalid {refusal : Refusal} (invalid : (component.schema.validate props).result = .error refusal)
    (policy : Policy) :
    ((component.guard ⟨.development, policy⟩).render props).result = .error refusal := by
  rw [Guarded.result_of_development _ rfl, Guarded.inspect_of_invalid invalid]
  exact congrArg (Except.map _) invalid

theorem eventsAt_warn_of_invalid {refusal : Refusal}
    (invalid : (component.schema.validate props).result = .error refusal) (policy : Policy) :
    ((component.guard ⟨.development, policy⟩).render props).eventsAt .warn = [] := by
  rw [Guarded.eventsAt_of_development _ rfl, Guarded.inspect_of_invalid invalid]
  exact component.schema.eventsAt_warn_validate props

/-- Properties that pass the schema are left to the policy. -/
theorem result_of_valid (valid : (component.schema.validate props).result = .ok ()) (policy : Policy) :
    ((component.guard ⟨.development, policy⟩).render props).result =
      (component.applyPolicy policy props).result.map fun _ => (component.render props).result := by
  rw [Guarded.result_of_development _ rfl, Guarded.inspect_of_valid valid]
  rfl

theorem eventsAt_warn_of_valid (valid : (component.schema.validate props).result = .ok ()) (policy : Policy) :
    ((component.guard ⟨.development, policy⟩).render props).eventsAt .warn =
      (component.applyPolicy policy props).eventsAt .warn := by
  rw [Guarded.eventsAt_of_development _ rfl, Guarded.inspect_of_valid valid, Traced.eventsAt_bind]
  exact congrArg (· ++ _) (component.schema.eventsAt_warn_validate props)

theorem refused_of_valid (valid : (component.schema.validate props).result = .ok ()) (name : String) :
    ((component.guard ⟨.development, .deny⟩).render props).result = .error (.undeclared component.name name) ↔
      (component.schema.undeclared props).head? = some name := by
  rw [result_of_valid valid, result_deny]
  cases (component.schema.undeclared props).head? with
  | none => exact iff_of_false nofun nofun
  | some first => simp [Except.map]

theorem deny_ok_iff_of_valid (valid : (component.schema.validate props).result = .ok ()) (output : ρ) :
    ((component.guard ⟨.development, .deny⟩).render props).result = .ok output ↔
      component.schema.undeclared props = [] ∧ (component.render props).result = output := by
  rw [result_of_valid valid, result_deny, ← List.head?_eq_none_iff]
  cases (component.schema.undeclared props).head? with
  | none => simp [Except.map]
  | some first => simp [Except.map]

theorem warn_ok_iff_of_valid (valid : (component.schema.validate props).result = .ok ()) (output : ρ) :
    ((component.guard ⟨.development, .warn⟩).render props).result = .ok output ↔
      (component.render props).result = output := by
  rw [result_of_valid valid]
  simp [applyPolicy, Except.map]

/-- To deny undeclared properties is to refuse those that would be warned of. -/
theorem deny_ok_iff_warn (component : Component ν ρ) (props : Props) (mode : Mode) (output : ρ) :
    ((component.guard ⟨mode, .deny⟩).render props).result = .ok output ↔
      ((component.guard ⟨mode, .warn⟩).render props).result = .ok output ∧
        ((component.guard ⟨mode, .warn⟩).render props).eventsAt .warn = [] := by
  cases mode with
  | production =>
      rw [result_production, result_production, eventsAt_production]
      simp
  | development =>
      cases outcome : (component.schema.validate props).result with
      | ok =>
          rw [deny_ok_iff_of_valid outcome, warn_ok_iff_of_valid outcome, eventsAt_warn_of_valid outcome,
            component.eventsAt_warn, List.map_eq_nil_iff, and_comm]
      | error refusal =>
          rw [result_of_invalid outcome, result_of_invalid outcome]
          exact iff_of_false nofun (fun both => nomatch both.1)

theorem allow_eq_warn (component : Component ν ρ) (props : Props) (mode : Mode) :
    ((component.guard ⟨mode, .allow⟩).render props).result =
      ((component.guard ⟨mode, .warn⟩).render props).result := by
  cases mode with
  | production => rw [result_production, result_production]
  | development =>
      cases outcome : (component.schema.validate props).result with
      | ok =>
          rw [result_of_valid outcome, result_of_valid outcome]
          rfl
      | error refusal => rw [result_of_invalid outcome, result_of_invalid outcome]

end

/-- Every guard around every component gates its renders. -/
theorem gated (component : Component ν ρ) (props : Props) : component.Gated props where
  unwatched config := (component.guard config).unwatched_render props
  production policy := by
    have renders := (component.guard ⟨.production, policy⟩).renders_render_watched props
    rw [result_production] at renders
    exact ⟨result_production policy, renders, checks_production policy, eventsAt_production policy .trace,
      eventsAt_production policy .debug, eventsAt_production policy .warn⟩
  valid_or_invalid := by
    cases outcome : (component.schema.validate props).result with
    | ok => exact .inl rfl
    | error refusal =>
        obtain ⟨diagnostic, rfl⟩ := Schema.exists_invalid_of_validate_error outcome
        exact .inr ⟨diagnostic, rfl⟩
  invalid policy diagnostic failure :=
    ⟨result_of_invalid failure policy, eventsAt_warn_of_invalid failure policy⟩
  deny_refuses valid name := by
    rw [refused_of_valid valid, Schema.undeclared_eq_filter, List.head?_filter]
  deny_renders valid declared := by
    apply (deny_ok_iff_of_valid valid _).mpr
    rw [Schema.undeclared_eq_filter]
    refine ⟨List.filter_eq_nil_iff.mpr ?_, rfl⟩
    intro key supplied
    simpa using declared key supplied
  warn valid := by
    rw [eventsAt_warn_of_valid valid, component.eventsAt_warn, Schema.undeclared_eq_filter]
    exact ⟨(warn_ok_iff_of_valid valid _).mpr rfl, rfl⟩
  renders config := (component.guard config).renders_render_watched props
  allow_eq_warn mode := component.allow_eq_warn props mode
  deny_ok_iff mode output := component.deny_ok_iff_warn props mode output

/-- A chart that asks for a title. -/
def chart : Component Unit String where
  name := "Chart"
  schema := .ofCheckers [("title", Checker.string.required), ("grid", .bool)]
  render _ := .pure "a chart"

/-- Properties that pass the schema of the chart, among others that it does not declare. -/
def colored : Props := .ofList [("color", .string "red"), ("title", .string "Sales"), ("shadow", .bool true)]

theorem gated_chart :
    (chart.schema.validate colored).result = .ok () ∧
      ((chart.guard ⟨.development, .deny⟩).render colored).result = .error (.undeclared "Chart" "color") ∧
      ((chart.guard ⟨.development, .deny⟩).watched.render colored).renders = [] ∧
      ((chart.guard ⟨.development, .warn⟩).render colored).result = .ok "a chart" ∧
      ((chart.guard ⟨.development, .warn⟩).render colored).eventsAt .warn =
        [.undeclaredProperty "Chart" "color", .undeclaredProperty "Chart" "shadow"] := by
  have gated := chart.gated colored
  have valid : (chart.schema.validate colored).result = .ok () := rfl
  have refused := (gated.deny_refuses valid "color").mpr rfl
  have unrendered := gated.renders ⟨.development, .deny⟩
  rw [refused] at unrendered
  exact ⟨valid, refused, unrendered, gated.warn valid⟩

end Component

end RecordCheck
