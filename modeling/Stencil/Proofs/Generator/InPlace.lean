import Stencil.Proofs.Generator.History
/-!
# Checks and writes in order

An operation gives its answer and the new state at once, so nothing half done is to be seen of it. Here the operations
are taken apart into the checks that they make and the writes, in order, and these are carried out in place: what has
been written stays, even if a later check fails. `carryOut_actions` says that this is what a step does.

The operations of schemas and of registries make every check before their one write (`ChecksFirst`). Only loading a
schema goes on to check between its writes, as it adds model by model, and these checks find nothing. So a step never
fails once it has written something (`settled_actions`), which is why a refused step leaves the state as it was
(`Settled.unchanged`).
-/

namespace Stencil

/-- A part of an operation that works in place. -/
inductive Action (σ : Type) where
  /-- Looks for a fault. If there is one, the operation ends with it. -/
  | check (fault? : σ → Option Error)
  | write (change : σ → σ)

namespace Action

variable {σ τ α : Type}

/-- Carries out actions one after another, up to the first fault. What has been written until then stays. -/
def carryOut : List (Action σ) → σ → Except Error Unit × σ
  | [], s => (.ok (), s)
  | .check fault? :: rest, s =>
    match fault? s with
    | some e => (.error e, s)
    | none => carryOut rest s
  | .write change :: rest, s => carryOut rest (change s)

/-- What is read first, from somewhere else than the state; then the actions that need it. -/
def reading (read : Except Error α) (next : α → List (Action σ)) : List (Action σ) :=
  match read with
  | .error e => [.check fun _ => some e]
  | .ok a => next a

/-- In place, the operation takes these actions. -/
def Consists (op : σ → Except Error σ) (actions : List (Action σ)) : Prop :=
  ∀ s, carryOut actions s = match op s with
    | .ok s' => (.ok (), s')
    | .error e => (.error e, s)

/-- Every check comes before the write. -/
inductive ChecksFirst : List (Action σ) → Prop
  | nil : ChecksFirst []
  | check {fault? : σ → Option Error} {rest : List (Action σ)} :
      ChecksFirst rest → ChecksFirst (.check fault? :: rest)
  | write {change : σ → σ} : ChecksFirst [.write change]

/-- From the state on, no check finds a fault when something has been written. -/
inductive Settled : List (Action σ) → σ → Prop
  | nil (s : σ) : Settled [] s
  | fault {fault? : σ → Option Error} {rest : List (Action σ)} {s : σ} {e : Error} :
      fault? s = some e → Settled (.check fault? :: rest) s
  | check {fault? : σ → Option Error} {rest : List (Action σ)} {s : σ} :
      fault? s = none → Settled rest s → Settled (.check fault? :: rest) s
  | write {change : σ → σ} {rest : List (Action σ)} {s : σ} :
      (carryOut rest (change s)).1 = .ok () → Settled (.write change :: rest) s

theorem ChecksFirst.settled {actions : List (Action σ)} (h : ChecksFirst actions) (s : σ) : Settled actions s := by
  induction h with
  | nil => exact .nil s
  | @check fault? rest _ ih =>
    cases hfault : fault? s with
    | none => exact .check hfault ih
    | some e => exact .fault hfault
  | write => exact .write rfl

theorem ChecksFirst.reading {read : Except Error α} {next : α → List (Action σ)}
    (h : ∀ a, ChecksFirst (next a)) : ChecksFirst (reading read next) := by
  cases read with
  | error e => exact .check .nil
  | ok a => exact h a

theorem Settled.reading {read : Except Error α} {next : α → List (Action σ)} {s : σ}
    (h : ∀ a, Settled (next a) s) : Settled (reading read next) s := by
  cases read with
  | error e => exact .fault rfl
  | ok a => exact h a

/-- Actions that fail have written nothing. -/
theorem Settled.unchanged {actions : List (Action σ)} {s : σ} {e : Error} (h : Settled actions s)
    (he : (carryOut actions s).1 = .error e) : (carryOut actions s).2 = s := by
  induction h with
  | nil => rfl
  | fault hfault => simp only [carryOut, hfault]
  | check hfault _ ih =>
    simp only [carryOut, hfault] at he ⊢
    exact ih he
  | write hok =>
    rw [carryOut, hok] at he
    cases he

theorem carryOut_append (actions more : List (Action σ)) (s : σ) :
    carryOut (actions ++ more) s = match carryOut actions s with
      | (.ok (), s') => carryOut more s'
      | (.error e, s') => (.error e, s') := by
  induction actions generalizing s with
  | nil => rfl
  | cons action actions ih =>
    cases action with
    | check fault? =>
      simp only [List.cons_append, carryOut]
      cases fault? s with
      | some e => rfl
      | none => exact ih s
    | write change => exact ih (change s)

/-! ## Parts of a state -/

/-- The action on a part of the state. -/
def within (get : τ → σ) (put : σ → τ → τ) : Action σ → Action τ
  | check fault? => .check fun t => fault? (get t)
  | write change => .write fun t => put (change (get t)) t

theorem carryOut_within (get : τ → σ) (put : σ → τ → τ) (hget : ∀ s t, get (put s t) = s)
    (hput : ∀ s s' t, put s' (put s t) = put s' t) (hself : ∀ t, put (get t) t = t)
    (actions : List (Action σ)) (t : τ) :
    carryOut (actions.map (within get put)) t =
      ((carryOut actions (get t)).1, put (carryOut actions (get t)).2 t) := by
  induction actions generalizing t with
  | nil => simp only [List.map_nil, carryOut, hself]
  | cons action actions ih =>
    cases action with
    | check fault? =>
      simp only [List.map_cons, within, carryOut]
      cases fault? (get t) with
      | some e => simp only [hself]
      | none => exact ih t
    | write change => simp only [List.map_cons, within, carryOut, ih, hget, hput]

theorem ChecksFirst.within {actions : List (Action σ)} (h : ChecksFirst actions) (get : τ → σ) (put : σ → τ → τ) :
    ChecksFirst (actions.map (within get put)) := by
  induction h with
  | nil => exact .nil
  | check _ ih => exact .check ih
  | write => exact .write

end Action

open Stencil.Action

/-! ## Schemas -/

namespace Schema

/-- Adding a model: its name is looked for, then it is appended. -/
def adding (m : Model) : List (Action Schema) :=
  [.check fun s => if m.name ∈ s.names then some (.duplicate .model m.name) else none,
    .write fun s => { s with models := s.models ++ [m.withLocalNames] }]

theorem checksFirst_adding (m : Model) : ChecksFirst (adding m) := .check .write

theorem consists_addModel (m : Model) : Consists (·.addModel m) (adding m) := by
  intro s
  simp only [adding, carryOut, addModel_eq]
  split_ifs <;> rfl

/-- Adding a property: its model is looked for, its identifiers and its type are looked at, then it is appended. -/
def extending (name remote localName type : String) : List (Action Schema) :=
  let p := Property.ofCall remote localName type
  [.check fun s => if name ∈ s.names then none else some (.notFound .model name),
    .check fun _ =>
      if remote = "" ∧ localName = "" then some (.invalid (.propertyWithoutIdentifier name)) else none,
    .check fun s =>
      if p.localName ∈ (s.model? name).elim [] Model.localNames then some (.duplicate .property p.localName)
      else none,
    .check fun _ => if p.typeToken = "" then some (.invalid (.propertyWithoutType name p.localName)) else none,
    .write fun s =>
      match s.position? name with
      | some i => { s with models := s.models.modify i (·.extend [p]) }
      | none => s]

theorem checksFirst_extending (name remote localName type : String) :
    ChecksFirst (extending name remote localName type) := .check (.check (.check (.check .write)))

theorem consists_addProperty (name remote localName type : String) :
    Consists (·.addProperty name remote localName type) (extending name remote localName type) := by
  intro s
  simp only [extending, addProperty]
  cases hi : s.position? name with
  | none => simp only [carryOut, if_neg (position?_eq_none_iff.1 hi)]
  | some i =>
    obtain ⟨m, hm, rfl, hfound⟩ := getElem?_of_position? hi
    have hknown : m.name ∈ s.names := List.mem_map_of_mem (List.mem_of_getElem? hm)
    have hset : s.models.modify i (·.extend [.ofCall remote localName type]) =
        s.models.set i (m.extend [.ofCall remote localName type]) := by
      rw [List.modify_eq_set_getElem?, hm]
      rfl
    simp only [carryOut, if_pos hknown, hfound, Option.elim_some, hi, hset, hm, Model.addProperty_eq]
    -- each fault is looked for on both sides
    split_ifs <;> rfl

end Schema

/-! ## Registries -/

namespace Registry

/-- Registering a file: its source is made and its place looked at, then it is appended. -/
def appending (fileName : String) (contents : Bytes) (version directory : String) (renderer : Nat) :
    List (Action Registry) :=
  reading (Source.ofFile fileName contents version directory renderer) fun s =>
    [.check fun r => if (r.source? fileName directory).isSome then some (.duplicate .template fileName) else none,
      .write fun r => ⟨r.sources ++ [s]⟩]

theorem checksFirst_appending (fileName : String) (contents : Bytes) (version directory : String)
    (renderer : Nat) : ChecksFirst (appending fileName contents version directory renderer) :=
  .reading fun _ => .check .write

theorem consists_add (fileName : String) (contents : Bytes) (version directory : String) (renderer : Nat) :
    Consists (·.add fileName contents version directory renderer)
      (appending fileName contents version directory renderer) := by
  intro r
  unfold appending add
  cases Source.ofFile fileName contents version directory renderer with
  | error e => rfl
  | ok s =>
    simp only [reading, carryOut]
    cases (r.source? fileName directory).isSome <;> rfl

/-- Registering the file that a path leads to: it is read first. -/
def appendingFile (tree : FileTree) (current : Place) (path : String) (renderer : Nat) : List (Action Registry) :=
  reading ((Path.fileName? path).elim (.error (.invalid (.notAFile path))) .ok) fun fileName =>
    reading ((tree.read? current path).elim (.error (.unreadable path)) .ok) fun contents =>
      appending fileName contents formatVersion "" renderer

theorem checksFirst_appendingFile (tree : FileTree) (current : Place) (path : String) (renderer : Nat) :
    ChecksFirst (appendingFile tree current path renderer) :=
  .reading fun _ => .reading fun _ => checksFirst_appending _ _ _ _ _

theorem consists_addFile (tree : FileTree) (current : Place) (path : String) (renderer : Nat) :
    Consists (·.addFile tree current path renderer) (appendingFile tree current path renderer) := by
  intro r
  unfold appendingFile addFile
  cases Path.fileName? path with
  | none => rfl
  | some fileName =>
    cases tree.read? current path with
    | none => rfl
    | some contents => exact consists_add fileName contents formatVersion "" renderer r

/-- Registering files: for each one its place is looked at and its source is made, and in the end all sources are
appended, after those that are pending. -/
def gathering (renderer : Nat) (pending : List Source) : List FoundFile → List (Action Registry)
  | [] => [.write fun r => ⟨r.sources ++ pending⟩]
  | f :: rest =>
    .check (fun r =>
      if (r.source? f.fileName f.directory).isSome || pending.any (·.isAt f.fileName f.directory) then
        some (.duplicate .template f.fileName)
      else none) ::
    reading (Source.ofFile f.fileName f.contents formatVersion f.directory renderer) fun s =>
      gathering renderer (pending ++ [s]) rest

theorem checksFirst_gathering (renderer : Nat) (pending : List Source) (files : List FoundFile) :
    ChecksFirst (gathering renderer pending files) := by
  induction files generalizing pending with
  | nil => exact .write
  | cons f files ih => exact .check (.reading fun s => ih (pending ++ [s]))

theorem carryOut_gathering (r : Registry) (renderer : Nat) (pending : List Source) (files : List FoundFile) :
    carryOut (gathering renderer pending files) r = match r.gather renderer pending files with
      | .ok added => (.ok (), ⟨r.sources ++ added⟩)
      | .error e => (.error e, r) := by
  induction files generalizing pending with
  | nil => rfl
  | cons f files ih =>
    rw [gathering, gather, carryOut]
    cases (r.source? f.fileName f.directory).isSome || pending.any (·.isAt f.fileName f.directory) with
    | true => rfl
    | false =>
      cases Source.ofFile f.fileName f.contents formatVersion f.directory renderer with
      | error e => rfl
      | ok s => exact ih (pending ++ [s])

/-- Registering the files of a template set: it is walked first. -/
def appendingDirectory (tree : FileTree) (current : Place) (path : String) (renderer : Nat) :
    List (Action Registry) :=
  reading ((walk? tree current path).elim (.error .unwalkable) .ok) (gathering renderer [])

theorem checksFirst_appendingDirectory (tree : FileTree) (current : Place) (path : String) (renderer : Nat) :
    ChecksFirst (appendingDirectory tree current path renderer) :=
  .reading (checksFirst_gathering renderer [])

theorem consists_addDirectory (tree : FileTree) (current : Place) (path : String) (renderer : Nat) :
    Consists (·.addDirectory tree current path renderer) (appendingDirectory tree current path renderer) := by
  intro r
  simp only [appendingDirectory, addDirectory]
  cases walk? tree current path with
  | none => rfl
  | some files =>
    refine (carryOut_gathering r renderer [] files).trans ?_
    simp only
    cases r.gather renderer [] files <;> rfl

end Registry

/-! ## Generators -/

namespace Generator

variable {ρ : Type}

/-- The action on the schema of a generator. -/
def onSchema : Action Schema → Action (Generator ρ) := within schema fun schema g => { g with schema }

/-- The action on the registry of a generator. -/
def onRegistry : Action Registry → Action (Generator ρ) := within registry fun registry g => { g with registry }

theorem carryOut_onSchema {change : Schema → Except Error Schema} {actions : List (Action Schema)}
    (h : Consists change actions) (g : Generator ρ) : carryOut (actions.map onSchema) g = changeSchema change g := by
  have hpart := carryOut_within (τ := Generator ρ) schema (fun schema g => { g with schema }) (fun _ _ => rfl)
    (fun _ _ _ => rfl) (fun _ => rfl) actions g
  rw [onSchema, hpart, h, changeSchema]
  cases change g.schema <;> rfl

theorem carryOut_onRegistry {change : Registry → Except Error Registry} {actions : List (Action Registry)}
    (h : Consists change actions) (g : Generator ρ) :
    carryOut (actions.map onRegistry) g = changeRegistry change g := by
  have hpart := carryOut_within (τ := Generator ρ) registry (fun registry g => { g with registry }) (fun _ _ => rfl)
    (fun _ _ _ => rfl) (fun _ => rfl) actions g
  rw [onRegistry, hpart, h, changeRegistry]
  cases change g.registry <;> rfl

/-- Adding models: each name is looked for again before the model is appended. -/
def addingAll (ms : List Model) : List (Action (Generator ρ)) := ms.flatMap fun m => (Schema.adding m).map onSchema

theorem carryOut_addingAll (ms : List Model) (g : Generator ρ) : carryOut (addingAll ms) g = addModels ms g := by
  induction ms generalizing g with
  | nil => rfl
  | cons m ms ih =>
    have hone : carryOut ((Schema.adding m).map onSchema) g = addModel m g :=
      carryOut_onSchema (Schema.consists_addModel m) g
    simp only [addingAll, List.flatMap_cons, carryOut_append, hone, addModels]
    obtain ⟨answer, g'⟩ := addModel m g
    cases answer with
    | error e => rfl
    | ok u => exact ih g'

/-- Loading a schema: all of it is looked at, then the name of the project is taken over and the models are added. -/
def loading (incoming : Schema) : List (Action (Generator ρ)) :=
  reading incoming.validate fun _ =>
    .check (fun g => (clash? g.schema [] incoming.models).map (.duplicate .model)) ::
      .write (·.takeProject incoming) :: addingAll incoming.models

theorem carryOut_loading (incoming : Schema) (g : Generator ρ) :
    carryOut (loading incoming) g = loadSchema incoming g := by
  unfold loading loadSchema
  cases incoming.validate with
  | error e => rfl
  | ok u =>
    simp only [reading, carryOut]
    cases clash? g.schema [] incoming.models with
    | some name => rfl
    | none => exact carryOut_addingAll _ _

/-- The names that are looked for again are not found. -/
theorem settled_loading (incoming : Schema) (g : Generator ρ) : Settled (loading incoming) g := by
  refine .reading fun _ => ?_
  cases hclash : clash? g.schema [] incoming.models with
  | some name => exact .fault (by rw [hclash]; rfl)
  | none =>
    refine .check (by rw [hclash]; rfl) (.write ?_)
    rw [carryOut_addingAll, addModels_of_clash? hclash]

/-- Registering a file for a renderer, which has to be there. -/
def binding (fileName : String) (contents : Bytes) (version directory : String) (renderer : Nat) :
    List (Action (Generator ρ)) :=
  .check (fun g => if renderer < g.renderers.length then none else some (.invalid (.noRenderer renderer))) ::
    (Registry.appending fileName contents version directory renderer).map onRegistry

theorem carryOut_binding (fileName : String) (contents : Bytes) (version directory : String) (renderer : Nat)
    (g : Generator ρ) : carryOut (binding fileName contents version directory renderer) g =
      addTemplateWith fileName contents version directory renderer g := by
  unfold binding addTemplateWith
  rw [carryOut]
  by_cases h : renderer < g.renderers.length
  · simp only [if_pos h]
    exact carryOut_onRegistry (Registry.consists_add fileName contents version directory renderer) g
  · simp only [if_neg h]

/-- Adding a mapping: its names are resolved, then it is appended. -/
def mapping (sourceNames modelNames : List String) : List (Action (Generator ρ)) :=
  [.check fun g =>
      match Mapping.resolve g.registry g.schema sourceNames modelNames with
      | .error e => some e
      | .ok _ => none,
    .write fun g =>
      match Mapping.resolve g.registry g.schema sourceNames modelNames with
      | .error _ => g
      | .ok m => { g with mappings := g.mappings ++ [m] }]

/-- What a step checks and writes, in order. A run of the generation is looked at as a whole. -/
def Step.actions : Step ρ → List (Action (Generator ρ))
  | .addModel m => (Schema.adding m).map onSchema
  | .addModelNamed name =>
    .check (fun _ => if name.isEmpty then some (.invalid .newModelWithoutName) else none) ::
      (Schema.adding { name }).map onSchema
  | .addProperty model remote localName type => (Schema.extending model remote localName type).map onSchema
  | .loadSchema incoming => loading incoming
  | .loadDocument document => reading (Schema.load document) loading
  | .loadSchemaFile tree current path => reading (readSchema tree current path) loading
  | .addTemplate fileName contents version directory => binding fileName contents version directory 0
  | .addTemplateWith fileName contents version directory renderer =>
    binding fileName contents version directory renderer
  | .addTemplateFile tree current path => (Registry.appendingFile tree current path 0).map onRegistry
  | .addTemplateDirectory tree current path => (Registry.appendingDirectory tree current path 0).map onRegistry
  | .addMapping sourceNames modelNames => mapping sourceNames modelNames
  | .addFeature name => [.write (Generator.addFeature name)]
  | .removeFeature name => [.write (Generator.removeFeature name)]
  | .registerRenderer renderer => [.write fun g => (g.registerRenderer renderer).2]
  | .process => []

/-- A step does what its actions do when they are carried out in place. -/
theorem carryOut_actions [Renderer ρ] {s : Step ρ} (hs : s ≠ .process) (g : Generator ρ) :
    carryOut s.actions g = s.perform g := by
  cases s with
  | addModel m => exact carryOut_onSchema (Schema.consists_addModel m) g
  | addModelNamed name =>
    simp only [Step.actions, Step.perform, Generator.addModelNamed, carryOut]
    cases name.isEmpty with
    | true => rfl
    | false => exact carryOut_onSchema (Schema.consists_addModel { name }) g
  | addProperty model remote localName type =>
    exact carryOut_onSchema (Schema.consists_addProperty model remote localName type) g
  | loadSchema incoming => exact carryOut_loading incoming g
  | loadDocument document =>
    simp only [Step.actions, Step.perform, Generator.loadDocument]
    cases Schema.load document with
    | error e => rfl
    | ok incoming => exact carryOut_loading incoming g
  | loadSchemaFile tree current path =>
    simp only [Step.actions, Step.perform, Generator.loadSchemaFile]
    cases readSchema tree current path with
    | error e => rfl
    | ok incoming => exact carryOut_loading incoming g
  | addTemplate fileName contents version directory => exact carryOut_binding fileName contents version directory 0 g
  | addTemplateWith fileName contents version directory renderer =>
    exact carryOut_binding fileName contents version directory renderer g
  | addTemplateFile tree current path => exact carryOut_onRegistry (Registry.consists_addFile tree current path 0) g
  | addTemplateDirectory tree current path =>
    exact carryOut_onRegistry (Registry.consists_addDirectory tree current path 0) g
  | addMapping sourceNames modelNames =>
    simp only [Step.actions, Step.perform, Generator.addMapping, mapping, carryOut]
    cases Mapping.resolve g.registry g.schema sourceNames modelNames <;> rfl
  | addFeature | removeFeature | registerRenderer => rfl
  | process => exact absurd rfl hs

/-- Once a step has written something, it does not fail. -/
theorem settled_actions (s : Step ρ) (g : Generator ρ) : Settled s.actions g := by
  cases s with
  | addModel m => exact ((Schema.checksFirst_adding m).within _ _).settled g
  | addModelNamed name => exact (ChecksFirst.check ((Schema.checksFirst_adding { name }).within _ _)).settled g
  | addProperty model remote localName type =>
    exact ((Schema.checksFirst_extending model remote localName type).within _ _).settled g
  | loadSchema incoming => exact settled_loading incoming g
  | loadDocument | loadSchemaFile => exact .reading fun incoming => settled_loading incoming g
  | addTemplate | addTemplateWith =>
    exact (ChecksFirst.check ((Registry.checksFirst_appending _ _ _ _ _).within _ _)).settled g
  | addTemplateFile tree current path =>
    exact ((Registry.checksFirst_appendingFile tree current path 0).within _ _).settled g
  | addTemplateDirectory tree current path =>
    exact ((Registry.checksFirst_appendingDirectory tree current path 0).within _ _).settled g
  | addMapping => exact (ChecksFirst.check .write).settled g
  | addFeature | removeFeature | registerRenderer => exact ChecksFirst.write.settled g
  | process => exact .nil g

end Generator

end Stencil
