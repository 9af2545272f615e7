import Stencil.Proofs.Generator.Sources
import Stencil.Proofs.Output.Armor
import Stencil.Renderer.Template
/-!
# How a run ends

`Parsed` and `Rendered` are the parts of a run that succeed, from one list of renderers to the next.
`Ends` puts them together to the four ways in which a run ends: without a mapping, at the first source
that does not parse, at the first mapped source that does not render, or with all files.

`process_eq_iff` says that a run ends in exactly one of these ways, and that it changes nothing but the
renderers. Each part is done twice: a success is carried over to what follows it (`Parsed.append`,
`Rendered.append`), and every list either succeeds or has a first failure (`parsed_or_fails`,
`rendered_or_fails`).
-/

namespace Stencil.Generator

variable {ρ : Type} [Renderer ρ]

/-! ## What is to be rendered -/

theorem getElem?_flatMap_iff {α β : Type} {f : α → List β} {l : List α} {k : Nat} {b : β} :
    (l.flatMap f)[k]? = some b ↔ ∃ before a after i, l = before ++ a :: after ∧ (f a)[i]? = some b ∧
      k = (before.map fun a => (f a).length).sum + i := by
  induction l generalizing k with
  | nil => simp
  | cons a l ih =>
    rw [List.flatMap_cons]
    constructor
    · intro h
      by_cases hk : k < (f a).length
      · rw [List.getElem?_append_left hk] at h
        exact ⟨[], a, l, k, rfl, h, by simp⟩
      · rw [List.getElem?_append_right (Nat.le_of_not_lt hk)] at h
        obtain ⟨before, a', after, i, rfl, hi, hplace⟩ := ih.1 h
        refine ⟨a :: before, a', after, i, rfl, hi, ?_⟩
        rw [List.map_cons, List.sum_cons]
        omega
    · rintro ⟨before, a', after, i, hl, hi, rfl⟩
      cases before with
      | nil =>
        obtain ⟨rfl, rfl⟩ := List.cons.inj hl
        have hlt : i < (f a).length := (List.getElem?_eq_some_iff.1 hi).1
        rw [List.map_nil, List.sum_nil, Nat.zero_add, List.getElem?_append_left hlt]
        exact hi
      | cons _ before =>
        obtain ⟨rfl, htail⟩ := List.cons.inj hl
        rw [List.map_cons, List.sum_cons, Nat.add_assoc, List.getElem?_append_right (Nat.le_add_right _ _),
          Nat.add_sub_cancel_left]
        exact ih.2 ⟨before, a', after, i, htail, hi, rfl⟩

omit [Renderer ρ] in
/-- Each mapping has all its sources rendered in its own context. They follow those of the mappings before it, and
stand in the order that they have in the mapping. -/
theorem getElem?_jobs_iff {g : Generator ρ} {k : Nat} {job : Source × Context} :
    g.jobs[k]? = some job ↔ ∃ before m after i, g.mappings = before ++ m :: after ∧
      (m.sourcesIn g.registry)[i]? = some job.1 ∧ job.2 = g.contextOf m ∧
        k = (before.map fun m => (m.sourcesIn g.registry).length).sum + i := by
  obtain ⟨s, c⟩ := job
  rw [jobs, getElem?_flatMap_iff]
  simp only [List.length_map, List.getElem?_map, Option.map_eq_some_iff, Prod.mk.injEq]
  refine exists_congr fun before => exists_congr fun m => exists_congr fun after => exists_congr fun i => ?_
  refine and_congr_right fun _ => ?_
  constructor
  · rintro ⟨⟨_, hs, rfl, hc⟩, hk⟩
    exact ⟨hs, hc.symm, hk⟩
  · rintro ⟨hs, rfl, hk⟩
    exact ⟨⟨s, hs, rfl, rfl⟩, hk⟩

/-! ## Successful parts -/

/-- All sources parse, one after another, each with its renderer as the earlier ones left it. -/
inductive Parsed : List ρ → List Source → List ρ → Prop
  | nil (rs : List ρ) : Parsed rs [] rs
  | cons {rs rs' : List ρ} {r r' : ρ} {s : Source} {rest : List Source} :
      rs[s.renderer]? = some r → Renderer.parse s r = (.ok (), r') →
      Parsed (rs.set s.renderer r') rest rs' → Parsed rs (s :: rest) rs'

/-- The source does not parse. -/
def ParseFails (rs : List ρ) (s : Source) (e : Error) : Prop :=
  ∃ r, rs[s.renderer]? = some r ∧ (Renderer.parse s r).1 = .error e

/-- All sources are rendered in their contexts, one after another, and these are their files: those in
the text of a template, and one file for any other source, which holds what is stored. -/
inductive Rendered : List ρ → List (Source × Context) → List OutputFile → List ρ → Prop
  | nil (rs : List ρ) : Rendered rs [] [] rs
  | template {rs rs' : List ρ} {r r' : ρ} {s : Source} {c : Context} {text : String}
      {rest : List (Source × Context)} {files : List OutputFile} :
      isTemplateFileName s.fileName = true → rs[s.renderer]? = some r →
      Renderer.render s c r = (.ok text, r') → Rendered (rs.set s.renderer r') rest files rs' →
      Rendered rs ((s, c) :: rest) (extractFiles text s.directory ++ files) rs'
  | stored {rs rs' : List ρ} {s : Source} {c : Context} {rest : List (Source × Context)}
      {files : List OutputFile} :
      isTemplateFileName s.fileName = false → Rendered rs rest files rs' →
      Rendered rs ((s, c) :: rest) (⟨s.fileName, s.directory, Bytes.ofText s.body.text⟩ :: files) rs'

/-- The source is a template and does not render. -/
def RenderFails (rs : List ρ) (s : Source) (c : Context) (e : Error) : Prop :=
  isTemplateFileName s.fileName = true ∧ ∃ r, rs[s.renderer]? = some r ∧ (Renderer.render s c r).1 = .error e

/-- The four ways in which a run ends. Which sources it renders, in which contexts and in which order, is said by
`getElem?_jobs_iff`. -/
inductive Ends (g : Generator ρ) : Except Error (List OutputFile) → Prop
  | unmapped : g.mappings = [] → Ends g (.error (.invalid .nothingToProcess))
  | unparsed {before after : List Source} {s : Source} {rs : List ρ} {e : Error} :
      g.mappings ≠ [] → g.registry.sources = before ++ s :: after →
      Parsed (g.renderers.map Renderer.reset) before rs → ParseFails rs s e → Ends g (.error e)
  | unrendered {before after : List (Source × Context)} {s : Source} {c : Context} {rs rs' : List ρ}
      {files : List OutputFile} {e : Error} :
      g.mappings ≠ [] → Parsed (g.renderers.map Renderer.reset) g.registry.sources rs →
      g.jobs = before ++ (s, c) :: after → Rendered rs before files rs' → RenderFails rs' s c e →
      Ends g (.error e)
  | done {rs rs' : List ρ} {files : List OutputFile} :
      g.mappings ≠ [] → Parsed (g.renderers.map Renderer.reset) g.registry.sources rs →
      Rendered rs g.jobs files rs' → Ends g (.ok files)

/-! ## Parsing -/

theorem Parsed.length_eq {rs rs' : List ρ} {sources : List Source} (h : Parsed rs sources rs') :
    rs'.length = rs.length := by
  induction h with
  | nil => rfl
  | cons _ _ _ ih => rw [ih, List.length_set]

/-- What has parsed is out of the way. -/
theorem Parsed.append {rs rs' : List ρ} {before : List Source} (h : Parsed rs before rs')
    (after : List Source) :
    (parseAll rs (before ++ after)).outcome = (parseAll rs' after).outcome ∧
      (parseAll rs (before ++ after)).renderers = (parseAll rs' after).renderers := by
  induction h with
  | nil => exact ⟨rfl, rfl⟩
  | cons hr hp _ ih =>
    rw [List.cons_append, parseAll]
    simpa only [hr, hp] using ih

theorem Parsed.parseAll_eq {rs rs' : List ρ} {sources : List Source} (h : Parsed rs sources rs') :
    (parseAll rs sources).outcome = .ok () ∧ (parseAll rs sources).renderers = rs' := by
  have happ := h.append []
  rw [List.append_nil] at happ
  exact happ

theorem ParseFails.parseAll_eq {rs : List ρ} {s : Source} {e : Error} (h : ParseFails rs s e)
    (after : List Source) : (parseAll rs (s :: after)).outcome = .error e := by
  obtain ⟨r, hr, he⟩ := h
  rcases hp : Renderer.parse s r with ⟨outcome, r'⟩
  rw [hp] at he
  subst he
  rw [parseAll]
  simp only [hr, hp]

/-- Sources that are bound all parse, or there is a first one that does not. -/
theorem parsed_or_fails {rs : List ρ} {sources : List Source}
    (hbound : ∀ s ∈ sources, s.renderer < rs.length) :
    (∃ rs', Parsed rs sources rs') ∨
      ∃ before s after rs' e, sources = before ++ s :: after ∧ Parsed rs before rs' ∧ ParseFails rs' s e := by
  induction sources generalizing rs with
  | nil => exact .inl ⟨rs, .nil rs⟩
  | cons s rest ih =>
    obtain ⟨r, hr⟩ : ∃ r, rs[s.renderer]? = some r :=
      ⟨_, List.getElem?_eq_getElem (hbound s List.mem_cons_self)⟩
    rcases hp : Renderer.parse s r with ⟨e | u, r'⟩
    · exact .inr ⟨[], s, rest, rs, e, rfl, .nil rs, _, hr, by rw [hp]⟩
    · -- the renderer has changed, but no position has come or gone
      have hrest : ∀ s' ∈ rest, s'.renderer < (rs.set s.renderer r').length := by
        intro s' hs'
        rw [List.length_set]
        exact hbound s' (List.mem_cons_of_mem s hs')
      rcases ih hrest with ⟨rs', h⟩ | ⟨before, s', after, rs', e, rfl, h, hf⟩
      · exact .inl ⟨rs', .cons hr hp h⟩
      · exact .inr ⟨s :: before, s', after, rs', e, rfl, .cons hr hp h, hf⟩

/-! ## Rendering -/

/-- The files of a source that is made from a file and not executed: the one file that is stored. -/
theorem processSource_stored {rs : List ρ} {s : Source} {c : Context} (hs : s.FromFile)
    (hr : s.renderer < rs.length) (ht : isTemplateFileName s.fileName = false) :
    processSource rs s c =
      ⟨.ok [⟨s.fileName, s.directory, Bytes.ofText s.body.text⟩], rs, []⟩ := by
  obtain ⟨contents, hb⟩ := hs.opaqueFile ht
  have hfiles : opaqueFiles s (armor contents) =
      [⟨s.fileName, s.directory, Bytes.ofText (armor contents)⟩] := by
    simp only [opaqueFiles, extractFiles_armor]
  simp only [processSource, List.getElem?_eq_getElem hr, hb, hfiles, SourceBody.text]

/-- The files of a template are those in its text. -/
theorem processSource_template {rs : List ρ} {r r' : ρ} {s : Source} {c : Context}
    {outcome : Except Error String} (hs : s.FromFile) (ht : isTemplateFileName s.fileName = true)
    (hr : rs[s.renderer]? = some r) (h : Renderer.render s c r = (outcome, r')) :
    (processSource rs s c).outcome = outcome.map (extractFiles · s.directory) ∧
      (processSource rs s c).renderers = rs.set s.renderer r' := by
  obtain ⟨text, hb⟩ := hs.template ht
  simp only [processSource, hr, hb, Renderer.generate, h]
  cases outcome with
  | error e => exact ⟨rfl, rfl⟩
  | ok text => exact ⟨rfl, rfl⟩

theorem map_append_map (outcome : Except Error (List OutputFile)) (files files' : List OutputFile) :
    (outcome.map (files' ++ ·)).map (files ++ ·) = outcome.map (files ++ files' ++ ·) := by
  cases outcome with
  | error e => rfl
  | ok later => simp [Except.map]

/-- What has been rendered puts its files in front. -/
theorem Rendered.append {rs rs' : List ρ} {before : List (Source × Context)} {files : List OutputFile}
    (h : Rendered rs before files rs')
    (hbound : ∀ job ∈ before, job.1.FromFile ∧ job.1.renderer < rs.length)
    (after : List (Source × Context)) :
    (processAll rs (before ++ after)).outcome =
      (processAll rs' after).outcome.map (files ++ ·) := by
  induction h with
  | nil rs =>
    rw [List.nil_append]
    cases (processAll rs after).outcome <;> rfl
  | @template rs rs' r r' s c text rest files ht hr hrender _ ih =>
    have hs := (hbound (s, c) List.mem_cons_self).1
    obtain ⟨hout, hrs⟩ := processSource_template hs ht hr hrender
    have ih := ih fun job hjob => by
      rw [List.length_set]
      exact hbound job (List.mem_cons_of_mem _ hjob)
    rw [List.cons_append, processAll]
    simp only [hout, hrs, ih]
    exact map_append_map _ _ _
  | @stored rs rs' s c rest files ht _ ih =>
    obtain ⟨hs, hr⟩ := hbound (s, c) List.mem_cons_self
    have ih := ih fun job hjob => hbound job (List.mem_cons_of_mem _ hjob)
    rw [List.cons_append, processAll, processSource_stored hs hr ht]
    simp only [ih]
    exact map_append_map _ [_] _

theorem RenderFails.processAll_eq {rs : List ρ} {s : Source} {c : Context} {e : Error}
    (h : RenderFails rs s c e) (hs : s.FromFile) (after : List (Source × Context)) :
    (processAll rs ((s, c) :: after)).outcome = .error e := by
  obtain ⟨ht, r, hr, he⟩ := h
  rcases hp : Renderer.render s c r with ⟨outcome, r'⟩
  rw [hp] at he
  subst he
  obtain ⟨hout, -⟩ := processSource_template hs ht hr hp
  rw [processAll]
  simp only [hout, Except.map]

/-- Sources that are bound are all rendered, or there is a first one that is not. -/
theorem rendered_or_fails {rs : List ρ} {jobs : List (Source × Context)}
    (hbound : ∀ job ∈ jobs, job.1.renderer < rs.length) :
    (∃ files rs', Rendered rs jobs files rs') ∨
      ∃ before s c after files rs' e, jobs = before ++ (s, c) :: after ∧ Rendered rs before files rs' ∧
        RenderFails rs' s c e := by
  induction jobs generalizing rs with
  | nil => exact .inl ⟨[], rs, .nil rs⟩
  | cons job rest ih =>
    obtain ⟨s, c⟩ := job
    have hrest : ∀ job ∈ rest, job.1.renderer < rs.length :=
      fun job hjob => hbound job (List.mem_cons_of_mem _ hjob)
    cases ht : isTemplateFileName s.fileName with
    | false =>
      rcases ih hrest with ⟨files, rs', h⟩ | ⟨before, s', c', after, files, rs', e, rfl, h, hf⟩
      · exact .inl ⟨_, rs', .stored ht h⟩
      · exact .inr ⟨(s, c) :: before, s', c', after, _, rs', e, rfl, .stored ht h, hf⟩
    | true =>
      obtain ⟨r, hr⟩ : ∃ r, rs[s.renderer]? = some r :=
        ⟨_, List.getElem?_eq_getElem (hbound (s, c) List.mem_cons_self)⟩
      rcases hp : Renderer.render s c r with ⟨e | text, r'⟩
      · exact .inr ⟨[], s, c, rest, [], rs, e, rfl, .nil rs, ht, _, hr, by rw [hp]⟩
      · have hrest' : ∀ job ∈ rest, job.1.renderer < (rs.set s.renderer r').length := by
          rw [List.length_set]
          exact hrest
        rcases ih hrest' with ⟨files, rs', h⟩ | ⟨before, s', c', after, files, rs', e, rfl, h, hf⟩
        · exact .inl ⟨_, rs', .template ht hr hp h⟩
        · exact .inr ⟨(s, c) :: before, s', c', after, _, rs', e, rfl, .template ht hr hp h, hf⟩

/-! ## The whole run -/

omit [Renderer ρ] in
theorem mem_sources_of_mem_jobs {g : Generator ρ} {job : Source × Context} (h : job ∈ g.jobs) :
    job.1 ∈ g.registry.sources := by
  obtain ⟨k, hk⟩ := List.mem_iff_getElem?.1 h
  obtain ⟨-, m, -, i, -, hs, -⟩ := getElem?_jobs_iff.1 hk
  obtain ⟨place, -, hplace⟩ := List.mem_filterMap.1 (List.mem_of_getElem? hs)
  exact List.mem_of_getElem? hplace

omit [Renderer ρ] in
theorem Bound.jobs {g : Generator ρ} (h : g.Bound) :
    ∀ job ∈ g.jobs, job.1.FromFile ∧ job.1.renderer < g.renderers.length :=
  fun _ hjob => h _ (mem_sources_of_mem_jobs hjob)

/-- A run ends in one of the four ways. -/
theorem exists_ends {g : Generator ρ} (h : g.Bound) : ∃ outcome, g.Ends outcome := by
  by_cases hm : g.mappings = []
  · exact ⟨_, .unmapped hm⟩
  have hsources : ∀ s ∈ g.registry.sources, s.renderer < (g.renderers.map Renderer.reset).length := by
    rw [List.length_map]
    exact fun s hs => (h s hs).2
  rcases parsed_or_fails hsources with ⟨rs, hparsed⟩ | ⟨before, s, after, rs, e, he, hparsed, hfails⟩
  · have hjobs : ∀ job ∈ g.jobs, job.1.renderer < rs.length := by
      rw [hparsed.length_eq, List.length_map]
      exact fun job hjob => (h.jobs job hjob).2
    rcases rendered_or_fails hjobs with
      ⟨files, rs', hdone⟩ | ⟨before, s, c, after, files, rs', e, he, hdone, hfails⟩
    · exact ⟨_, .done hm hparsed hdone⟩
    · exact ⟨_, .unrendered hm hparsed he hdone hfails⟩
  · exact ⟨_, .unparsed hm he hparsed hfails⟩

theorem run_of_parsed {g : Generator ρ} {rs : List ρ} (hm : g.mappings ≠ [])
    (hparsed : Parsed (g.renderers.map Renderer.reset) g.registry.sources rs) :
    g.run.outcome = (processAll rs g.jobs).outcome := by
  obtain ⟨hout, hrs⟩ := hparsed.parseAll_eq
  simp only [run, List.isEmpty_iff, hm, if_false, hout, hrs]

/-- A run that ends in one of the ways has its outcome. -/
theorem Ends.run_outcome {g : Generator ρ} (h : g.Bound) {outcome : Except Error (List OutputFile)}
    (he : g.Ends outcome) : g.run.outcome = outcome := by
  cases he with
  | unmapped hm => simp [run, hm]
  | @unparsed before after s rs e hm hs hparsed hfails =>
    have hout : (parseAll (g.renderers.map Renderer.reset) g.registry.sources).outcome = .error e := by
      rw [hs, (hparsed.append _).1, hfails.parseAll_eq]
    simp only [run, List.isEmpty_iff, hm, if_false, hout]
  | @unrendered before after s c rs rs' files e hm hparsed hjobs hdone hfails =>
    have hbound : ∀ job ∈ before ++ (s, c) :: after, job.1.FromFile ∧ job.1.renderer < rs.length := by
      rw [hparsed.length_eq, List.length_map, ← hjobs]
      exact h.jobs
    rw [run_of_parsed hm hparsed, hjobs,
      hdone.append (fun job hjob => hbound job (List.mem_append_left _ hjob)),
      hfails.processAll_eq (hbound (s, c) (by simp)).1]
    rfl
  | @done rs rs' files hm hparsed hdone =>
    have hbound : ∀ job ∈ g.jobs, job.1.FromFile ∧ job.1.renderer < rs.length := by
      rw [hparsed.length_eq, List.length_map]
      exact h.jobs
    have happ := hdone.append hbound []
    rw [List.append_nil] at happ
    rw [run_of_parsed hm hparsed, happ]
    simp [processAll, Except.map]

theorem ends_of_process {g : Generator ρ} (h : g.Bound) {outcome : Except Error (List OutputFile)}
    (hout : (process g).1 = outcome) : g.Ends outcome := by
  obtain ⟨outcome', hends⟩ := exists_ends h
  obtain rfl : outcome' = outcome := (hends.run_outcome h).symm.trans hout
  exact hends

/-- The outcome of a run is the one of the four in which it ends: without a mapping, at the first source that
does not parse, at the first mapped source that does not render, or with all files. None of them changes
configuration, schema, registry or mappings. -/
theorem process_eq_iff {g : Generator ρ} (h : g.Bound) (outcome : Except Error (List OutputFile)) :
    ((process g).1 = outcome ↔ g.Ends outcome) ∧
      (process g).2.config = g.config ∧ (process g).2.schema = g.schema ∧
      (process g).2.registry = g.registry ∧ (process g).2.mappings = g.mappings := by
  refine ⟨⟨?_, fun he => he.run_outcome h⟩, rfl, rfl, rfl, rfl⟩
  rintro rfl
  obtain ⟨outcome, he⟩ := exists_ends h
  have hout : (process g).1 = outcome := he.run_outcome h
  rw [hout]
  exact he

/-- The files stand in the order of the mappings, and in that of their sources within each. A further source, of a
version that does not parse, ends the run, although no mapping has it. -/
theorem process_two_mappings :
    let page := "<<levo filename:\x7b\x7bModels.[0].Name\x7d\x7d>>x<<levo>>"
    let registry : Registry :=
      ⟨[⟨"icon.png", "img", "1.0", .opaqueFile (armor [137, 80]), 0⟩, ⟨"page.lt", "", "1.0", .template page, 0⟩]⟩
    let g : Generator TemplateRenderer :=
      { config := {}
        schema := ⟨"", [{ name := "Order" }, { name := "Line" }]⟩
        registry
        mappings := [⟨[1, 0], [1]⟩, ⟨[1], [0]⟩]
        renderers := [{}] }
    let g' := { g with registry := ⟨registry.sources ++ [⟨"old.lt", "", "0.9", .template "x", 0⟩]⟩ }
    let icon : OutputFile := ⟨"icon.png", "img", Bytes.ofText (armor [137, 80])⟩
    (g.Bound ∧ g.Ends (.ok [⟨"Line", "", Bytes.ofText "x"⟩, icon, ⟨"Order", "", Bytes.ofText "x"⟩]) ∧
        (process g).2.mappings = g.mappings) ∧
      g'.Bound ∧ g'.Ends (.error (.parse "old.lt" (.version "1.0" "0.9"))) ∧
        (process g').2.mappings = g'.mappings := by
  intro page registry g g' icon
  have hb : g.Bound := by
    intro s hs
    rcases List.mem_cons.1 hs with rfl | hs
    · exact ⟨⟨[137, 80], by decide +kernel⟩, by decide⟩
    · rw [List.mem_singleton.1 hs]
      exact ⟨⟨Bytes.ofText page, by decide +kernel⟩, by decide⟩
  have hb' : g'.Bound := by
    intro s hs
    rcases List.mem_append.1 hs with hs | hs
    · exact hb s hs
    · rw [List.mem_singleton.1 hs]
      exact ⟨⟨Bytes.ofText "x", by decide +kernel⟩, by decide⟩
  have hend := process_eq_iff hb (.ok [⟨"Line", "", Bytes.ofText "x"⟩, icon, ⟨"Order", "", Bytes.ofText "x"⟩])
  have hend' := process_eq_iff hb' (.error (.parse "old.lt" (.version "1.0" "0.9")))
  exact ⟨⟨hb, hend.1.1 (by decide +kernel), hend.2.2.2.2⟩, hb', hend'.1.1 (by decide +kernel), hend'.2.2.2.2⟩

end Stencil.Generator
