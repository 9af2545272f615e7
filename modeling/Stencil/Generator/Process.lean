import Stencil.Generator.Basic
/-!
# Running a generation

All sources are parsed, in the order of their registration, before the first one is rendered. Then
every mapping's sources are rendered in the mapping's context, in the order of the mappings. The first
failure ends the run, and there are no files then. A run changes nothing but the renderers.

A run also tells which calls it made to the renderers.
-/

namespace Stencil

/-- What a renderer is asked for. -/
inductive Request where
  | parse
  | render
deriving Repr, DecidableEq

/-- A call to the renderer at a position, about the source with the key. -/
structure RendererCall where
  renderer : Nat
  request : Request
  key : String
deriving Repr, DecidableEq

/-- A part of a run: how it ended, the renderers afterwards, and the calls to them. -/
structure Run (ρ α : Type) where
  outcome : Except Error α
  renderers : List ρ
  calls : List RendererCall

namespace Generator

variable {ρ : Type} [Renderer ρ]

/-- The error for a source that is bound to no renderer. -/
def missingRenderer (s : Source) : Error := .render s.key (.noRenderer s.renderer)

/-- Parses sources, up to the first failure. -/
def parseAll (renderers : List ρ) : List Source → Run ρ Unit
  | [] => ⟨.ok (), renderers, []⟩
  | s :: rest =>
    match renderers[s.renderer]? with
    | none => ⟨.error (missingRenderer s), renderers, []⟩
    | some r =>
      let call : RendererCall := ⟨s.renderer, .parse, s.key⟩
      match Renderer.parse s r with
      | (.error e, r) => ⟨.error e, renderers.set s.renderer r, [call]⟩
      | (.ok (), r) =>
        let run := parseAll (renderers.set s.renderer r) rest
        { run with calls := call :: run.calls }

/-- The files of a source that is not executed: those that its text holds as blocks, or the file
itself. -/
def opaqueFiles (s : Source) (armored : String) : List OutputFile :=
  match extractFiles armored s.directory with
  | [] => [⟨s.fileName, s.directory, Bytes.ofText armored⟩]
  | files => files

/-- The files of a source in a context. -/
def processSource (renderers : List ρ) (s : Source) (context : Context) : Run ρ (List OutputFile) :=
  match renderers[s.renderer]? with
  | none => ⟨.error (missingRenderer s), renderers, []⟩
  | some r =>
    match s.body with
    | .opaqueFile armored => ⟨.ok (opaqueFiles s armored), renderers, []⟩
    | .template _ =>
      let (outcome, r) := Renderer.generate s context r
      ⟨outcome, renderers.set s.renderer r, [⟨s.renderer, .render, s.key⟩]⟩

/-- The files of sources in their contexts, up to the first failure. -/
def processAll (renderers : List ρ) : List (Source × Context) → Run ρ (List OutputFile)
  | [] => ⟨.ok [], renderers, []⟩
  | (s, context) :: rest =>
    let first := processSource renderers s context
    match first.outcome with
    | .error _ => first
    | .ok files =>
      let run := processAll first.renderers rest
      { run with outcome := run.outcome.map (files ++ ·), calls := first.calls ++ run.calls }

/-- The context in which the sources of a mapping are rendered. -/
def contextOf (g : Generator ρ) (m : Mapping) : Context :=
  .ofProject g.config.projectName g.config.packageName (m.modelsIn g.schema) g.config.features

/-- The mapped sources in their contexts, in the order of the mappings. -/
def jobs (g : Generator ρ) : List (Source × Context) :=
  g.mappings.flatMap fun m => (m.sourcesIn g.registry).map (·, g.contextOf m)

/-- Runs the generation. -/
def run (g : Generator ρ) : Run ρ (List OutputFile) :=
  if g.mappings.isEmpty then ⟨.error (.invalid .nothingToProcess), g.renderers, []⟩
  else
    let parsed := parseAll (g.renderers.map Renderer.reset) g.registry.sources
    match parsed.outcome with
    | .error e => ⟨.error e, parsed.renderers, parsed.calls⟩
    | .ok () =>
      let processed := processAll parsed.renderers g.jobs
      { processed with calls := parsed.calls ++ processed.calls }

/-- Runs the generation, and the generator afterwards. -/
def process : Operation ρ (List OutputFile) := fun g =>
  let run := g.run
  (run.outcome, { g with renderers := run.renderers })

end Generator

end Stencil
