import ContactGraph.Schema.Builder

/-!
# Definitions in the making

No step of building a field takes a flag back, so it is set in the end when some step set it
(`FieldDefinition.foldl_after_flag`). A field without a chain therefore keeps its values as free
properties, whatever the other steps say (`FieldDefinition.customValues_build_iff`).

A builder of a detail that starts from a definition keeps its whole way in one list, and that list
is the way from the contact of the definition that is being built (`DetailDefinition.builder`). So a
step is taken without fail, and what it makes is the builder of the definition after the step
(`step?_builder`). All in all the steps make a definition like any other
(`DetailKind.definition?_run?_begin`), which is told from them as a whole : the last chain and the
last scheme, all fields, and whether a flag was set at all (`foldl_after`). The order of the steps
shows in nothing else (`DetailKind.run?_begin`).
-/

namespace ContactGraph

/-- Some step is of a sort that only one step is of. -/
theorem any_iff_mem {α : Type} {p : α → Bool} {step : α} (hp : ∀ x, p x = true ↔ x = step)
    {steps : List α} : steps.any p = true ↔ step ∈ steps := by
  rw [List.any_eq_true]
  constructor
  · rintro ⟨x, hx, hpx⟩
    rwa [← (hp x).mp hpx]
  · exact fun h => ⟨step, h, (hp step).mpr rfl⟩

/-! ## Flags of fields -/

namespace FieldStep

/-- Whether the step takes the chain away. -/
def dropsMapping : FieldStep → Bool
  | .withoutMapping => true
  | _ => false

/-- Whether the step lets values be free properties. -/
def permitsCustom : FieldStep → Bool
  | .permittingCustomValues => true
  | .withoutMapping => true
  | _ => false

/-- Whether the step leaves the value to what is computed after the fetch. -/
def computes : FieldStep → Bool
  | .computed => true
  | _ => false

variable {steps : List FieldStep}

theorem any_dropsMapping_iff : steps.any dropsMapping = true ↔ .withoutMapping ∈ steps :=
  any_iff_mem fun x => by cases x <;> simp [dropsMapping]

theorem any_permitsCustom_iff : steps.any permitsCustom = true ↔
    .permittingCustomValues ∈ steps ∨ .withoutMapping ∈ steps := by
  rw [List.any_eq_true]
  constructor
  · rintro ⟨step, hstep, hpermits⟩
    cases step with
    | permittingCustomValues => exact .inl hstep
    | withoutMapping => exact .inr hstep
    | _ => cases hpermits
  · rintro (h | h)
    · exact ⟨_, h, rfl⟩
    · exact ⟨_, h, rfl⟩

theorem any_computes_iff : steps.any computes = true ↔ .computed ∈ steps :=
  any_iff_mem fun x => by cases x <;> simp [computes]

end FieldStep

namespace FieldDefinition

open FieldStep

/-- A flag that each step sets or leaves is set in the end when it was at first or some step sets
it. -/
theorem foldl_after_flag (flag : FieldDefinition → Bool) (sets : FieldStep → Bool)
    (hstep : ∀ f step, flag (f.after step) = (flag f || sets step)) (steps : List FieldStep)
    (f : FieldDefinition) : flag (steps.foldl after f) = (flag f || steps.any sets) := by
  induction steps generalizing f with
  | nil => rw [List.foldl_nil, List.any_nil, Bool.or_false]
  | cons step steps ih => rw [List.foldl_cons, ih, hstep, List.any_cons, Bool.or_assoc]

variable (name : String) (type : ValueType) (steps : List FieldStep)

theorem withoutMapping_build_iff :
    (build name type steps).withoutMapping = true ↔ .withoutMapping ∈ steps := by
  have hflag := foldl_after_flag withoutMapping dropsMapping
    (fun f step => by cases step <;> simp [after, dropsMapping]) steps { name, type }
  rw [build, hflag, Bool.false_or, any_dropsMapping_iff]

/-- Free properties are permitted when that is asked for, and when the chain is taken away. -/
theorem customValues_build_iff :
    (build name type steps).customValues = true ↔
      .permittingCustomValues ∈ steps ∨ .withoutMapping ∈ steps := by
  have hflag := foldl_after_flag customValues permitsCustom
    (fun f step => by cases step <;> simp [after, permitsCustom]) steps { name, type }
  rw [build, hflag, Bool.false_or, any_permitsCustom_iff]

theorem computed_build_iff : (build name type steps).computed = true ↔ .computed ∈ steps := by
  have hflag := foldl_after_flag computed computes
    (fun f step => by cases step <;> simp [after, computes]) steps { name, type }
  rw [build, hflag, Bool.false_or, any_computes_iff]

end FieldDefinition

/-! ## What the steps of a detail say -/

namespace BuildStep

/-- Whether the step brings the affiliation in. -/
def givesContext : BuildStep → Bool
  | .withContext => true
  | _ => false

/-- Whether the step asks for the graphs of the values. -/
def givesOwner : BuildStep → Bool
  | .owned => true
  | _ => false

/-- The chain the step gives. -/
def chain? : BuildStep → Option (List Property)
  | .reachedBy chain => some chain
  | _ => none

/-- The scheme the step gives. -/
def scheme? : BuildStep → Option String
  | .withUriScheme scheme => some scheme
  | _ => none

/-- The field the step adds. -/
def field? : BuildStep → Option FieldDefinition
  | .withField f => some f
  | _ => none

variable {steps : List BuildStep}

/-- The last chain some steps give, which is empty where they give none. -/
def lastChain (steps : List BuildStep) : List Property :=
  (steps.filterMap chain?).getLast?.getD []

/-- The last scheme some steps give. -/
def lastScheme? (steps : List BuildStep) : Option String :=
  (steps.filterMap scheme?).getLast?

/-- The fields some steps add, in order. -/
def fields (steps : List BuildStep) : List FieldDefinition :=
  steps.filterMap field?

theorem any_givesContext_iff : steps.any givesContext = true ↔ .withContext ∈ steps :=
  any_iff_mem fun x => by cases x <;> simp [givesContext]

theorem any_givesOwner_iff : steps.any givesOwner = true ↔ .owned ∈ steps :=
  any_iff_mem fun x => by cases x <;> simp [givesOwner]

/-- Two ways to build say the same : the same last chain and scheme, the same fields in order, and
the same flags. -/
structure SayTheSame (steps others : List BuildStep) : Prop where
  chain : lastChain steps = lastChain others
  scheme : lastScheme? steps = lastScheme? others
  fields : fields steps = fields others
  context : .withContext ∈ steps ↔ .withContext ∈ others
  owner : .owned ∈ steps ↔ .owned ∈ others

end BuildStep

/-! ## What is built -/

namespace DetailDefinition

/-- The definition after one more step. -/
def after (d : DetailDefinition) : BuildStep → DetailDefinition
  | .withContext => d.withContext
  | .owned => d.owned
  | .withUriScheme scheme => d.withUriScheme scheme
  | .reachedBy chain => d.reachedBy chain
  | .withField f => d.withField f

/-- What some steps make of a definition. -/
theorem foldl_after (steps : List BuildStep) (d : DetailDefinition) :
    steps.foldl after d =
      { d with
        hasContext := d.hasContext || steps.any BuildStep.givesContext
        hasOwner := d.hasOwner || steps.any BuildStep.givesOwner
        chain := (steps.filterMap BuildStep.chain?).getLast?.getD d.chain
        fields := d.fields ++ BuildStep.fields steps
        uriScheme := (BuildStep.lastScheme? steps).or d.uriScheme } := by
  induction steps generalizing d with
  | nil => simp [BuildStep.fields, BuildStep.lastScheme?]
  | cons step steps ih =>
    rw [List.foldl_cons, ih]
    cases step <;>
      simp [after, withContext, owned, withUriScheme, reachedBy, withField, BuildStep.fields,
        BuildStep.lastScheme?, BuildStep.givesContext, BuildStep.givesOwner, BuildStep.chain?,
        BuildStep.scheme?, BuildStep.field?, List.filterMap_cons, List.getLast?_cons]

/-- The builder of a definition : the way from the contact is one list. -/
def builder (d : DetailDefinition) : DetailBuilder where
  name := d.name
  unique := d.unique
  hasContext := d.hasContext
  hasOwner := d.hasOwner
  computed := d.computed
  dependencies := d.dependencies
  resource := d.fullChain
  fields := d.fields
  uriScheme := d.uriScheme

variable (d : DetailDefinition)

/-- A step is taken, and makes the builder of the definition after it. -/
theorem step?_builder (step : BuildStep) : d.builder.step? step = some (d.after step).builder := by
  cases step with
  | withContext =>
    cases hctx : d.hasContext <;>
      simp [DetailBuilder.step?, builder, after, withContext, fullChain, hctx]
  | reachedBy chain =>
    cases hctx : d.hasContext <;>
      simp [DetailBuilder.step?, DetailBuilder.reachedBy?, builder, after, reachedBy, fullChain,
        hctx]
  | owned => rfl
  | withUriScheme scheme => rfl
  | withField f => rfl

/-- All steps are taken. -/
theorem run?_builder (steps : List BuildStep) :
    d.builder.run? steps = some (steps.foldl after d).builder := by
  induction steps generalizing d with
  | nil => rfl
  | cons step steps ih =>
    rw [DetailBuilder.run?, List.foldlM_cons, step?_builder]
    exact ih (d.after step)

/-- The way is read without fail, and is the chain of the definition. -/
@[simp] theorem chain?_builder : d.builder.chain? = some d.chain := by
  cases hctx : d.hasContext <;> simp [DetailBuilder.chain?, builder, fullChain, hctx]

/-- A builder gives the definition it is of. -/
@[simp] theorem definition?_builder : d.builder.definition? = some d := by
  rw [DetailBuilder.definition?, chain?_builder]
  rfl

end DetailDefinition

/-! ## Any number of steps in any order -/

namespace DetailKind

/-- The definition before any step. -/
def definition (kind : DetailKind) (name : String) : DetailDefinition :=
  match kind with
  | .unique => .ofUnique name
  | .many => .ofMany name
  | .computed dependencies => .ofComputed name dependencies

variable (kind : DetailKind) (name : String) (steps : List BuildStep)

theorem begin_eq : kind.begin name = (kind.definition name).builder := by
  cases kind <;> rfl

/-- What some steps make of the definition they start from. -/
theorem foldl_after_definition :
    steps.foldl DetailDefinition.after (kind.definition name) =
      { kind.definition name with
        hasContext := steps.any BuildStep.givesContext
        hasOwner := steps.any BuildStep.givesOwner
        chain := BuildStep.lastChain steps
        fields := BuildStep.fields steps
        uriScheme := BuildStep.lastScheme? steps } := by
  rw [DetailDefinition.foldl_after]
  cases kind <;>
    simp [definition, DetailDefinition.ofUnique, DetailDefinition.ofMany,
      DetailDefinition.ofComputed, BuildStep.lastChain]

/-- Ways to build that say the same make the same definition. -/
theorem foldl_after_congr {others : List BuildStep} (h : BuildStep.SayTheSame steps others) :
    steps.foldl DetailDefinition.after (kind.definition name) =
      others.foldl DetailDefinition.after (kind.definition name) := by
  have hctx : steps.any BuildStep.givesContext = others.any BuildStep.givesContext := by
    rw [Bool.eq_iff_iff, BuildStep.any_givesContext_iff, BuildStep.any_givesContext_iff, h.context]
  have howner : steps.any BuildStep.givesOwner = others.any BuildStep.givesOwner := by
    rw [Bool.eq_iff_iff, BuildStep.any_givesOwner_iff, BuildStep.any_givesOwner_iff, h.owner]
  rw [foldl_after_definition, foldl_after_definition, hctx, howner, h.chain, h.fields, h.scheme]

/-- What is built is a definition like any other. -/
theorem definition?_run?_begin :
    ((kind.begin name).run? steps).bind DetailBuilder.definition? =
      some (steps.foldl DetailDefinition.after (kind.definition name)) := by
  rw [begin_eq, DetailDefinition.run?_builder, Option.bind_some,
    DetailDefinition.definition?_builder]

/-- Whatever the steps and their order, all of them are taken. The detail has a context just when
one of them brought it in. The way is then the affiliation step with the last chain behind it, and
else the last chain alone. From the subject it is the last chain in both cases. Steps that say the
same build the same. -/
theorem run?_begin :
    ∃ b, (kind.begin name).run? steps = some b ∧
      (b.hasContext = true ↔ .withContext ∈ steps) ∧
      (.withContext ∈ steps →
        b.resource = DetailDefinition.affiliationStep :: BuildStep.lastChain steps) ∧
      (.withContext ∉ steps → b.resource = BuildStep.lastChain steps) ∧
      b.chain? = some (BuildStep.lastChain steps) ∧
      ∀ others, BuildStep.SayTheSame steps others → (kind.begin name).run? others = some b := by
  have hbuilt := foldl_after_definition kind name steps
  generalize hd : steps.foldl DetailDefinition.after (kind.definition name) = d at hbuilt
  have hrun : (kind.begin name).run? steps = some d.builder := by
    rw [begin_eq, DetailDefinition.run?_builder, hd]
  have hctx : d.hasContext = true ↔ .withContext ∈ steps := by
    rw [hbuilt]
    exact BuildStep.any_givesContext_iff
  have hchain : d.chain = BuildStep.lastChain steps := by rw [hbuilt]
  refine ⟨d.builder, hrun, hctx, fun h => ?_, fun h => ?_, ?_, fun others hsame => ?_⟩
  · change d.fullChain = _
    rw [DetailDefinition.fullChain, if_pos (hctx.mpr h), hchain]
  · change d.fullChain = _
    rw [DetailDefinition.fullChain, if_neg (mt hctx.mp h), hchain]
  · rw [DetailDefinition.chain?_builder, hchain]
  · rw [begin_eq, DetailDefinition.run?_builder, ← foldl_after_congr kind name steps hsame, hd]

/-- A chain that is given before the context, and one behind it that the context is asked for
again. -/
theorem run?_begin_phone :
    ∃ b, (many.begin "PhoneNumber").run? [
          .reachedBy [{ iri := Vocabulary.Nco.hasEmailAddress }], .withContext,
          .reachedBy [{ iri := Vocabulary.Nco.hasPhoneNumber }], .withContext] = some b ∧
      b.hasContext = true ∧
      b.resource = [
        DetailDefinition.affiliationStep, { iri := Vocabulary.Nco.hasPhoneNumber }] ∧
      (many.begin "PhoneNumber").run? [
        .reachedBy [{ iri := Vocabulary.Nco.hasPhoneNumber }], .withContext] = some b := by
  obtain ⟨b, hb, hctx, hway, -, -, hsame⟩ := run?_begin many "PhoneNumber" [
    .reachedBy [{ iri := Vocabulary.Nco.hasEmailAddress }], .withContext,
    .reachedBy [{ iri := Vocabulary.Nco.hasPhoneNumber }], .withContext]
  exact ⟨b, hb, hctx.mpr (by simp), hway (by simp),
    hsame _ ⟨rfl, rfl, rfl, by simp, by simp⟩⟩

end DetailKind

end ContactGraph
