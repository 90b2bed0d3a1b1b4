import RecordCheck.Config.Document
import RecordCheck.Proofs.Config
import RecordCheck.Proofs.Json.Reader
import RecordCheck.Proofs.Record

/-!
# Configurations from objects of texts

An object whose members are all texts fills a draft member by member (`Draft.takeMember`), and the reader of documents
does just that with the tokens of such an object (`DocumentReader.answers_ofStrings`). A draft is filled to the end
exactly if the names of the members are settings, each at most once, and their texts are names of variants
(`Draft.exists_takeMembers_iff`). Then its settings are the texts of the members (`Draft.text?_takeMembers`), as if
variables had been set to them (`Draft.ofVariables_eq`).
-/

namespace RecordCheck

/-- The document of an object whose members are texts. -/
def Json.ofStrings (members : List (String × String)) : Json :=
  .object (members.map fun member => (member.1, .string member.2))

namespace Config

open Json (Token)

namespace Setting

theorem mem_all (setting : Setting) : setting ∈ all := by
  cases setting with
  | _ => decide

theorem text_injective : Function.Injective text := by
  intro setting setting' same
  cases setting <;> cases setting' <;> simp_all [text]

theorem find?_eq_some_iff {name : String} {setting : Setting} :
    (all.find? fun setting => setting.text = name) = some setting ↔ setting.text = name :=
  find?_eq_some_iff_named mem_all text_injective

end Setting

namespace Draft

variable {draft filled : Draft}

/-- The name of the variant that a setting has been filled with. -/
def text? (draft : Draft) : Setting → Option String
  | .mode => draft.mode?.map Mode.text
  | .policy => draft.policy?.map Policy.text

theorem has_eq (draft : Draft) (setting : Setting) : draft.has setting = (draft.text? setting).isSome := by
  cases setting with
  | mode | policy => exact (Option.isSome_map ..).symm

/-- Some draft comes of a name exactly if it is that of a variant. -/
theorem exists_fill?_iff {setting : Setting} {name : String} :
    (∃ filled, draft.fill? setting name = some filled) ↔ name ∈ setting.variants := by
  cases setting with
  | mode =>
      simp only [fill?, Option.map_eq_some_iff, find?_eq_some_iff_named Mode.mem_all Mode.text_injective]
      constructor
      · rintro ⟨_, mode, rfl, -⟩
        exact List.mem_map_of_mem mode.mem_all
      · intro variant
        obtain ⟨mode, -, named⟩ := List.mem_map.mp variant
        exact ⟨_, mode, named, rfl⟩
  | policy =>
      simp only [fill?, Option.map_eq_some_iff, find?_eq_some_iff_named Policy.mem_all Policy.text_injective]
      constructor
      · rintro ⟨_, policy, rfl, -⟩
        exact List.mem_map_of_mem policy.mem_all
      · intro variant
        obtain ⟨policy, -, named⟩ := List.mem_map.mp variant
        exact ⟨_, policy, named, rfl⟩

/-- A setting gets the name that it is filled with, and the other one stays. -/
theorem text?_fill? {setting : Setting} {name : String} (fill : draft.fill? setting name = some filled)
    (other : Setting) : filled.text? other = if other = setting then some name else draft.text? other := by
  cases setting with
  | mode =>
      obtain ⟨mode, found, rfl⟩ := Option.map_eq_some_iff.mp fill
      obtain rfl := (find?_eq_some_iff_named Mode.mem_all Mode.text_injective).mp found
      cases other with
      | _ => rfl
  | policy =>
      obtain ⟨policy, found, rfl⟩ := Option.map_eq_some_iff.mp fill
      obtain rfl := (find?_eq_some_iff_named Policy.mem_all Policy.text_injective).mp found
      cases other with
      | _ => rfl

/-- Fills the setting that a member names, if it has not been filled. -/
def takeMember (draft : Draft) (member : String × String) : Option Draft :=
  (Setting.all.find? fun setting => setting.text = member.1).bind fun setting =>
    if draft.has setting then none else draft.fill? setting member.2

theorem takeMember_eq_some_iff {name value : String} :
    draft.takeMember (name, value) = some filled ↔
      ∃ setting : Setting, setting.text = name ∧ draft.text? setting = none ∧
        draft.fill? setting value = some filled := by
  rw [takeMember, Option.bind_eq_some_iff]
  simp only [Setting.find?_eq_some_iff, has_eq]
  refine exists_congr fun setting => and_congr_right fun named => ?_
  cases draft.text? setting with
  | none => simp
  | some text => simp

/-- A setting is free after one has been filled if it was free before, and is not the one. -/
theorem text?_eq_none_iff_of_fill? {setting : Setting} {name : String}
    (fill : draft.fill? setting name = some filled) (other : Setting) :
    filled.text? other = none ↔ other ≠ setting ∧ draft.text? other = none := by
  rw [text?_fill? fill]
  split <;> simp [*]

/-- The members name settings that are not filled, each at most once, and have variants of these for their texts. -/
structure Fits (draft : Draft) (members : List (String × String)) : Prop where
  known : ∀ member ∈ members, ∃ setting : Setting, setting.text = member.1 ∧ draft.text? setting = none ∧
    member.2 ∈ setting.variants
  distinct : (keysOf members).Nodup

/-- Members fit if the first one can be taken and the others fit what it leaves. -/
theorem fits_cons_iff {member : String × String} {rest : List (String × String)} :
    draft.Fits (member :: rest) ↔ ∃ next, draft.takeMember member = some next ∧ next.Fits rest := by
  obtain ⟨name, value⟩ := member
  constructor
  · rintro ⟨known, distinct⟩
    obtain ⟨⟨setting, named, unset, variant⟩, known⟩ := List.forall_mem_cons.mp known
    obtain ⟨fresh, distinct⟩ := List.nodup_cons.mp distinct
    obtain ⟨next, fill⟩ := exists_fill?_iff.mpr variant
    refine ⟨next, takeMember_eq_some_iff.mpr ⟨setting, named, unset, fill⟩, ?_, distinct⟩
    intro member inside
    obtain ⟨other, named', unset', variant'⟩ := known member inside
    refine ⟨other, named', (text?_eq_none_iff_of_fill? fill other).mpr ⟨?_, unset'⟩, variant'⟩
    -- a second member of the same setting would repeat the name
    rintro rfl
    exact fresh (List.mem_map.mpr ⟨member, inside, named'.symm.trans named⟩)
  · rintro ⟨next, step, known, distinct⟩
    obtain ⟨setting, rfl, unset, fill⟩ := takeMember_eq_some_iff.mp step
    have free := text?_eq_none_iff_of_fill? fill
    refine ⟨List.forall_mem_cons.mpr ⟨⟨setting, rfl, unset, exists_fill?_iff.mp ⟨next, fill⟩⟩, ?_⟩,
      List.nodup_cons.mpr ⟨?_, distinct⟩⟩
    · intro member inside
      obtain ⟨other, named, unset', variant⟩ := known member inside
      exact ⟨other, named, ((free other).mp unset').2, variant⟩
    · intro again
      obtain ⟨member, inside, same⟩ := List.mem_map.mp again
      obtain ⟨other, named, unset', -⟩ := known member inside
      exact ((free other).mp unset').1 (Setting.text_injective (named.trans same))

theorem exists_takeMembers_iff {members : List (String × String)} :
    (∃ filled, members.foldlM takeMember draft = some filled) ↔ draft.Fits members := by
  induction members generalizing draft with
  | nil => exact iff_of_true ⟨draft, rfl⟩ ⟨by simp, List.nodup_nil⟩
  | cons member rest ih =>
      simp only [fits_cons_iff, ← ih, List.foldlM_cons, Option.bind_eq_bind, Option.bind_eq_some_iff]
      constructor
      · rintro ⟨filled, next, step, later⟩
        exact ⟨next, step, filled, later⟩
      · rintro ⟨next, step, filled, later⟩
        exact ⟨filled, next, step, later⟩

theorem text?_takeMembers {members : List (String × String)} (taken : members.foldlM takeMember draft = some filled)
    (setting : Setting) : filled.text? setting = (draft.text? setting).or (members.lookup setting.text) := by
  induction members generalizing draft with
  | nil =>
      cases taken
      exact (Option.or_none ..).symm
  | cons member rest ih =>
      obtain ⟨name, value⟩ := member
      simp only [List.foldlM_cons, Option.bind_eq_bind, Option.bind_eq_some_iff] at taken
      obtain ⟨next, step, later⟩ := taken
      obtain ⟨named, rfl, unset, fill⟩ := takeMember_eq_some_iff.mp step
      rw [ih later, text?_fill? fill]
      by_cases here : setting = named
      · subst here
        rw [if_pos rfl, unset, List.lookup_cons_self]
        rfl
      · have other : setting.text ≠ named.text := fun same => here (Setting.text_injective same)
        rw [if_neg here, List.lookup_cons, beq_eq_false_iff_ne.mpr other]

/-- A filled draft is the configuration of variables that are set to its texts. -/
theorem ofVariables_eq {lookup : String → Option String} (mode : lookup modeVariable = draft.text? .mode)
    (policy : lookup policyVariable = draft.text? .policy) : ofVariables lookup = .ok draft.toConfig := by
  obtain ⟨mode?, policy?⟩ := draft
  have modes : modeOf lookup = mode?.getD .development := by
    rw [modeOf, mode]
    cases mode? with
    | none => rfl
      | some chosen => exact Mode.ofVariable_text chosen
  cases policy? with
  | none => rw [ofVariables_of_none policy, modes, toConfig]; rfl
  | some chosen => rw [ofVariables_of_some policy, Policy.ofText_text, modes]; rfl

end Draft

namespace DocumentReader

variable {draft : Draft}

/-- The reader goes on with the filled draft; if there is none, it has refused the content. -/
def Answers (next : Draft → DocumentReader) (result : Except (TextError DocumentError) DocumentReader) :
    Option Draft → Prop
  | some filled => result = .ok (next filled)
  | none => ∃ error, result = .error (.content error)

/-- The tokens of a member whose value is a text. -/
def memberTokens (member : String × String) : List Token := [.string member.1, .colon, .string member.2]

theorem foldlM_cons_eq (reader : DocumentReader) (token : Token) (rest : List Token) :
    (token :: rest).foldlM step reader = (reader.step token).bind fun next => rest.foldlM step next := rfl

/-- A member fills the draft if it fits, and then a comma or the end of the object may follow. -/
theorem answers_member (draft : Draft) (member : String × String) :
    Answers objectNext ((memberTokens member).foldlM step (nameNext draft)) (draft.takeMember member) := by
  obtain ⟨name, value⟩ := member
  rw [Draft.takeMember, memberTokens, foldlM_cons_eq]
  simp only [step, takeName]
  cases Setting.all.find? fun setting => setting.text = name with
  | none => exact ⟨_, rfl⟩
  | some setting =>
      simp only [Option.bind_some]
      by_cases has : draft.has setting
      · rw [if_pos has, if_pos has]
        exact ⟨_, rfl⟩
      · rw [if_neg has, if_neg has]
        simp only [Except.bind, foldlM_cons_eq, step, beginSetting, takeVariant]
        cases draft.fill? setting value with
        | none => exact ⟨_, rfl⟩
        | some filled => rfl

/-- The members of an object that follow the first one fill the draft one after the other. -/
theorem answers_rest (draft : Draft) (members : List (String × String)) :
    Answers done (((members.flatMap fun member => Token.comma :: memberTokens member) ++ [Token.endObject]).foldlM step
      (objectNext draft)) (members.foldlM Draft.takeMember draft) := by
  induction members generalizing draft with
  | nil => exact rfl
  | cons member rest ih =>
      have first := answers_member draft member
      rw [List.flatMap_cons, List.cons_append, List.cons_append, List.append_assoc, foldlM_cons_eq, List.foldlM_cons]
      simp only [step, Except.bind]
      rw [List.foldlM_append]
      cases taken : draft.takeMember member with
      | none =>
          simp only [taken, Answers] at first
          obtain ⟨error, refused⟩ := first
          rw [refused]
          exact ⟨error, rfl⟩
      | some filled =>
          simp only [taken, Answers] at first
          rw [first]
          exact ih filled

/-- The tokens of an object of texts fill the empty draft with its members. -/
theorem answers_ofStrings (members : List (String × String)) :
    Answers done ((Json.ofStrings members).tokens.foldlM step start) (members.foldlM Draft.takeMember .empty) := by
  have parts : Json.memberTokens (members.map fun member => (member.1, Json.string member.2)) =
      members.map memberTokens := by
    rw [Json.memberTokens_eq_map, List.map_map]
    rfl
  rw [Json.ofStrings, Json.tokens, parts]
  cases members with
  | nil => exact rfl
  | cons member rest =>
      -- a name behind the opening brace is taken as one behind a comma is
      have later := answers_rest .empty (member :: rest)
      rw [List.flatMap_cons, List.cons_append] at later
      rw [List.map_cons, Json.intercalate_cons, List.flatMap_map]
      exact later

end DocumentReader

/-- The names of the members are those of settings, each at most once, and their texts are names of variants. -/
structure Admissible (members : List (String × String)) : Prop where
  known : ∀ member ∈ members, (member.1 = "mode" ∧ member.2 ∈ ["development", "production"]) ∨
    (member.1 = "unknown_props" ∧ member.2 ∈ ["allow", "warn", "deny"])
  distinct : (keysOf members).Nodup

variable {members : List (String × String)}

theorem admissible_iff : Admissible members ↔ Draft.empty.Fits members := by
  have settings (member : String × String) :
      ((member.1 = "mode" ∧ member.2 ∈ ["development", "production"]) ∨
        (member.1 = "unknown_props" ∧ member.2 ∈ ["allow", "warn", "deny"])) ↔
      ∃ setting : Setting, setting.text = member.1 ∧ Draft.empty.text? setting = none ∧
        member.2 ∈ setting.variants := by
    constructor
    · rintro (⟨name, value⟩ | ⟨name, value⟩)
      · exact ⟨.mode, name.symm, rfl, value⟩
      · exact ⟨.policy, name.symm, rfl, value⟩
    · rintro ⟨setting, name, -, value⟩
      cases setting with
      | mode => exact .inl ⟨name.symm, value⟩
      | policy => exact .inr ⟨name.symm, value⟩
  constructor
  · rintro ⟨known, distinct⟩
    exact ⟨fun member inside => (settings member).mp (known member inside), distinct⟩
  · rintro ⟨known, distinct⟩
    exact ⟨fun member inside => (settings member).mpr (known member inside), distinct⟩

variable {text : String} (read : Json.parse? text = some (Json.ofStrings members))

include read

/-- An object of texts gives the configuration of the draft that its members fill. -/
theorem ofText_ok_iff_of_ofStrings {config : Config} :
    ofText text = .ok config ↔ ∃ filled, members.foldlM Draft.takeMember .empty = some filled ∧
      filled.toConfig = config := by
  have answers := DocumentReader.answers_ofStrings members
  rw [ofText, ofTokens, Json.ofText_of_parse? read]
  cases taken : members.foldlM Draft.takeMember .empty with
  | none =>
      simp only [taken, DocumentReader.Answers] at answers
      obtain ⟨error, refused⟩ := answers
      rw [refused]
      exact iff_of_false nofun nofun
  | some filled =>
      simp only [taken, DocumentReader.Answers] at answers
      rw [answers]
      simp [DocumentReader.toConfig, Except.mapError]

theorem exists_ofText_iff_admissible : (∃ config, ofText text = .ok config) ↔ Admissible members := by
  rw [admissible_iff, ← Draft.exists_takeMembers_iff]
  simp only [ofText_ok_iff_of_ofStrings read]
  constructor
  · rintro ⟨_, filled, taken, rfl⟩
    exact ⟨filled, taken⟩
  · rintro ⟨filled, taken⟩
    exact ⟨_, filled, taken, rfl⟩

/-- The texts of an object have the effect of variables that are set to them. -/
theorem ofText_eq_ofVariables (admissible : Admissible members) {lookup : String → Option String}
    (mode : lookup modeVariable = members.lookup "mode")
    (policy : lookup policyVariable = members.lookup "unknown_props") : ofText text = ofVariables lookup := by
  obtain ⟨filled, taken⟩ := Draft.exists_takeMembers_iff.mpr (admissible_iff.mp admissible)
  have texts (setting : Setting) : filled.text? setting = members.lookup setting.text := by
    rw [Draft.text?_takeMembers taken]
    cases setting with
    | _ => rfl
  rw [Draft.ofVariables_eq (mode.trans (texts .mode).symm) (policy.trans (texts .policy).symm)]
  exact (ofText_ok_iff_of_ofStrings read).mpr ⟨filled, taken, rfl⟩

omit read

/--
A policy is read from its name up to the case of letters and blanks around it, and any other text is the error. The
variables select a configuration unless the one of the policy is set to a text that names none, whatever the mode is.
An object of texts is a configuration if its members are admissible, and then the one that variables of these texts
select.
-/
theorem routes_agree :
    (∀ (text : String) (policy : Policy), Policy.ofText text = .ok policy ↔ policy.NamedBy text) ∧
    (∀ (text : String) (error : Error), Policy.ofText text = .error error ↔
      error = .invalidPolicy text ∧ ∀ policy : Policy, ¬ policy.NamedBy text) ∧
    (∀ (lookup : String → Option String) (config : Config),
      ofVariables lookup = .ok config ↔ config.SelectedBy lookup) ∧
    (∀ (lookup : String → Option String) (error : Error), ofVariables lookup = .error error ↔
      ∃ text, lookup policyVariable = some text ∧ error = .invalidPolicy text ∧
        ∀ policy : Policy, ¬ policy.NamedBy text) ∧
    ∀ (text : String) (members : List (String × String)), Json.parse? text = some (Json.ofStrings members) →
      ((∃ config, ofText text = .ok config) ↔ Admissible members) ∧
      ∀ lookup : String → Option String, Admissible members → lookup modeVariable = members.lookup "mode" →
        lookup policyVariable = members.lookup "unknown_props" → ofText text = ofVariables lookup := by
  refine ⟨fun text policy => Policy.ofText_ok_iff, fun text error => Policy.ofText_error_iff,
    fun lookup config => ofVariables_ok_iff, fun lookup error => ofVariables_error_iff, ?_⟩
  intro text members read
  refine ⟨exists_ofText_iff_admissible read, ?_⟩
  intro lookup admissible mode policy
  exact ofText_eq_ofVariables read admissible mode policy

/-- Both members of an object, in an order of their own and with blanks between the tokens. -/
theorem routes_agree_warn :
    Json.parse? "\x7b\"unknown_props\": \"warn\", \"mode\":\"production\"\x7d" =
        some (Json.ofStrings [("unknown_props", "warn"), ("mode", "production")]) ∧
      Admissible [("unknown_props", "warn"), ("mode", "production")] ∧
      ofText "\x7b\"unknown_props\": \"warn\", \"mode\":\"production\"\x7d" =
        ofVariables (fun name => [(policyVariable, "warn"), (modeVariable, "production")].lookup name) := by
  have tokens : Token.ofText "\x7b\"unknown_props\": \"warn\", \"mode\":\"production\"\x7d" =
      [.beginObject, .string "unknown_props", .colon, .string "warn", .comma, .string "mode", .colon,
        .string "production", .endObject] := by
    decide +kernel
  have read : Json.parse? "\x7b\"unknown_props\": \"warn\", \"mode\":\"production\"\x7d" =
      some (Json.ofStrings [("unknown_props", "warn"), ("mode", "production")]) := by
    rw [Json.parse?, tokens]
    rfl
  have admissible : Admissible [("unknown_props", "warn"), ("mode", "production")] := by
    refine ⟨?_, by decide⟩
    simp
  exact ⟨read, admissible, (routes_agree.2.2.2.2 _ _ read).2 _ admissible (by decide) (by decide)⟩

end Config

end RecordCheck
