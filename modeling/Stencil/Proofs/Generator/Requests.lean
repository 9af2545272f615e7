import Stencil.Generator.Process
/-!
# What a run asks of its renderers

A run lists its calls: all sources are parsed first, and then the jobs are rendered. Where it gives files, the
renderings among the calls are those of its jobs, one for each that is a template (`renderings_run`).
-/

namespace Stencil

/-- The call that renders the source; an opaque file is not rendered. -/
def Source.rendering? (s : Source) : Option RendererCall :=
  match s.body with
  | .template _ => some ⟨s.renderer, .render, s.key⟩
  | .opaqueFile _ => none

theorem Source.request_of_rendering? {s : Source} {call : RendererCall} (h : s.rendering? = some call) :
    call.request = .render := by
  unfold rendering? at h
  split at h <;> cases h
  rfl

namespace Generator

variable {ρ : Type} [Renderer ρ]

theorem request_of_mem_parseAll {rs : List ρ} {sources : List Source} :
    ∀ call ∈ (parseAll rs sources).calls, call.request = .parse := by
  induction sources generalizing rs with
  | nil => exact nofun
  | cons s rest ih =>
    rw [parseAll]
    cases rs[s.renderer]? with
    | none => exact nofun
    | some r =>
      rcases hparse : Renderer.parse s r with ⟨e | u, r'⟩
      · simp [hparse]
      · simpa [hparse] using ih

theorem calls_processSource {rs : List ρ} {s : Source} {c : Context} {files : List OutputFile}
    (h : (processSource rs s c).outcome = .ok files) : (processSource rs s c).calls = s.rendering?.toList := by
  unfold processSource at h ⊢
  cases hr : rs[s.renderer]? with
  | none => simp [hr] at h
  | some r => cases hbody : s.body <;> simp [Source.rendering?, hbody]

theorem calls_processAll {rs : List ρ} {jobs : List (Source × Context)} {files : List OutputFile}
    (h : (processAll rs jobs).outcome = .ok files) :
    (processAll rs jobs).calls = jobs.filterMap fun job => job.1.rendering? := by
  induction jobs generalizing rs files with
  | nil => rfl
  | cons job rest ih =>
    obtain ⟨s, c⟩ := job
    rw [processAll] at h ⊢
    cases hfirst : (processSource rs s c).outcome with
    | error e => simp [hfirst] at h
    | ok first =>
      simp only [hfirst] at h ⊢
      cases hrest : (processAll (processSource rs s c).renderers rest).outcome with
      | error e => simp [hrest, Except.map] at h
      | ok more =>
        rw [calls_processSource hfirst, ih hrest, List.filterMap_cons]
        cases s.rendering? <;> rfl

/-- A run that gives files has rendered the template of each job once, in order. -/
theorem renderings_run {g : Generator ρ} {files : List OutputFile} (h : g.run.outcome = .ok files) :
    g.run.calls.filter (·.request = .render) = g.jobs.filterMap fun job => job.1.rendering? := by
  unfold run at h ⊢
  split at h
  · cases h
  · next hmapped =>
    rw [if_neg hmapped]
    cases hparsed : (parseAll (g.renderers.map Renderer.reset) g.registry.sources).outcome with
    | error e => simp [hparsed] at h
    | ok u =>
      simp only [hparsed] at h ⊢
      have hnone : (parseAll (g.renderers.map Renderer.reset) g.registry.sources).calls.filter
          (·.request = .render) = [] := by
        rw [List.filter_eq_nil_iff]
        intro call hcall
        simp [request_of_mem_parseAll call hcall]
      have hall : (g.jobs.filterMap fun job => job.1.rendering?).filter (·.request = .render) =
          g.jobs.filterMap fun job => job.1.rendering? := by
        rw [List.filter_eq_self]
        intro call hcall
        obtain ⟨job, -, hjob⟩ := List.mem_filterMap.1 hcall
        simpa using Source.request_of_rendering? hjob
      rw [List.filter_append, hnone, List.nil_append, calls_processAll h, hall]

end Generator

end Stencil
