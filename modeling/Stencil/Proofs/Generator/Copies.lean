import Stencil.Proofs.Generator.Handles
import Stencil.Proofs.Generator.Outcome
import Stencil.Proofs.Text.Lower
/-!
# Opaque files are copied

A file whose name is not that of a template goes through a run as armored text. No renderer has to do with it,
no block is found in it, and the file that comes out stands for the octets that went in (`process_copies`).

What one source contributes to the files of a run is said by cutting the run where it is rendered: `Rendered`
splits along its jobs (`Rendered.of_append`), so that the files in front and behind are those of the other jobs.
-/

namespace Stencil.Generator

variable {ρ : Type} [Renderer ρ]

/-! ## Cutting a run -/

/-- What is rendered in a row can be cut in two. -/
theorem Rendered.of_append {rs rs' : List ρ} {before after : List (Source × Context)} {files : List OutputFile}
    (h : Rendered rs (before ++ after) files rs') :
    ∃ front back mid, files = front ++ back ∧ Rendered rs before front mid ∧ Rendered mid after back rs' := by
  induction before generalizing rs files with
  | nil => exact ⟨[], files, rs, rfl, .nil rs, h⟩
  | cons job before ih =>
    cases h with
    | template ht hr hrender h =>
      obtain ⟨front, back, mid, rfl, hfront, hback⟩ := ih h
      exact ⟨_, back, mid, (List.append_assoc _ _ _).symm, .template ht hr hrender hfront, hback⟩
    | stored ht h =>
      obtain ⟨front, back, mid, rfl, hfront, hback⟩ := ih h
      exact ⟨_, back, mid, rfl, .stored ht hfront, hback⟩

/-- The one file of a source that is not executed stands in front, and the renderers are left alone. -/
theorem Rendered.of_stored {rs rs' : List ρ} {s : Source} {c : Context} {rest : List (Source × Context)}
    {files : List OutputFile} (ht : isTemplateFileName s.fileName = false)
    (h : Rendered rs ((s, c) :: rest) files rs') :
    ∃ back, files = ⟨s.fileName, s.directory, Bytes.ofText s.body.text⟩ :: back ∧ Rendered rs rest back rs' := by
  cases h with
  | template ht' => exact absurd (ht.symm.trans ht') (by decide)
  | stored _ h => exact ⟨_, rfl, h⟩

/-- The sources of mappings in their contexts. -/
def jobsOf {ρ : Type} (g : Generator ρ) (mappings : List Mapping) : List (Source × Context) :=
  mappings.flatMap fun m => (m.sourcesIn g.registry).map (·, g.contextOf m)

/-- The one file that a source contributes to the files of a run, in a mapping that stands between others: the
mapping has the source once, the files in front are those of all that is rendered before it, and the files behind
are those of all that is rendered after it. -/
structure Contribution (g : Generator ρ) (files : List OutputFile) (earlier : List Mapping) (m : Mapping)
    (later : List Mapping) (s : Source) where
  front : List OutputFile
  file : OutputFile
  back : List OutputFile
  files_eq : files = front ++ file :: back
  before : List Source
  after : List Source
  sourcesIn_eq : m.sourcesIn g.registry = before ++ s :: after
  not_before : s ∉ before
  not_after : s ∉ after
  /-- The renderers once all sources are parsed, when the source is rendered, and at the end. -/
  ready : List ρ
  mid : List ρ
  last : List ρ
  parsed : Parsed (g.renderers.map Renderer.reset) g.registry.sources ready
  rendered_front : Rendered ready (g.jobsOf earlier ++ before.map (·, g.contextOf m)) front mid
  rendered_back : Rendered mid (after.map (·, g.contextOf m) ++ g.jobsOf later) back last

/-- A source that is not executed contributes the file that is stored. -/
theorem exists_contribution {given : List ρ} {g : Generator ρ} (h : Reached given g) {files : List OutputFile}
    (hok : (process g).1 = .ok files) {earlier later : List Mapping} {m : Mapping}
    (hm : g.mappings = earlier ++ m :: later) {s : Source} (hs : s ∈ m.sourcesIn g.registry)
    (ht : isTemplateFileName s.fileName = false) :
    ∃ c : Contribution g files earlier m later s, c.file = ⟨s.fileName, s.directory, Bytes.ofText s.body.text⟩ := by
  cases ends_of_process h.bound hok with
  | done _ hparsed hdone =>
    obtain ⟨before, after, hsources⟩ := List.append_of_mem hs
    -- the mapping does not have the source a second time
    have hnodup := h.nodup_sourcesIn (hm ▸ List.mem_append_right earlier List.mem_cons_self)
    rw [hsources, List.nodup_middle, List.nodup_cons, List.mem_append, not_or] at hnodup
    -- what comes before the source, the source, and what comes after it
    have hjobs : g.jobs = (g.jobsOf earlier ++ before.map (·, g.contextOf m)) ++
        (s, g.contextOf m) :: (after.map (·, g.contextOf m) ++ g.jobsOf later) := by
      simp [jobs, jobsOf, hm, hsources]
    rw [hjobs] at hdone
    obtain ⟨front, rest, mid, rfl, hfront, hrest⟩ := hdone.of_append
    obtain ⟨back, rfl, hback⟩ := hrest.of_stored ht
    exact ⟨⟨front, _, back, rfl, before, after, hsources, hnodup.1.1, hnodup.1.2, _, mid, _, hparsed, hfront, hback⟩,
      rfl⟩

/-! ## Copies -/

/-- A file that is not a template by its name is copied octet for octet: the template renderer accepts it as it
is, and in every mapping that has it, it contributes one file to a run, with its name and its directory, which
stands for its contents. -/
theorem process_copies {given : List ρ} {g : Generator ρ} (h : Reached given g) {fileName directory : String}
    {contents : Bytes} {i : Nat} {s : Source}
    (hname : ¬ ∃ ending, ending <:+ fileName.toList ∧ ending.map Char.toLower = ".lt".toList)
    (hs : Source.ofFile fileName contents formatVersion directory i = .ok s) :
    (∀ t : TemplateRenderer, Renderer.parse s t = (.ok (), t)) ∧
      ∀ files, (process g).1 = .ok files → ∀ earlier m later, g.mappings = earlier ++ m :: later →
        s ∈ m.sourcesIn g.registry → ∃ c : Contribution g files earlier m later s,
          c.file.fileName = fileName ∧ c.file.directory = directory ∧ c.file.decodedBody = .ok contents := by
  have ht : isTemplateFileName fileName = false := by
    rw [Bool.eq_false_iff]
    exact fun ht => hname (isTemplateFileName_iff.1 ht)
  obtain ⟨-, -, body, hbody, rfl⟩ := Source.ofFile_eq_ok_iff.1 hs
  obtain rfl : body = .opaqueFile (armor contents) := by
    rcases SourceBody.ofFile_eq_ok_iff.1 hbody with ⟨ht', -⟩ | ⟨-, rfl⟩
    · exact absurd (ht.symm.trans ht') (by decide)
    · rfl
  refine ⟨fun t => ?_, fun files hok earlier m later hm hmem => ?_⟩
  · simp [Renderer.parse, TemplateRenderer.parse]
  · obtain ⟨c, hc⟩ := exists_contribution h hok hm hmem ht
    refine ⟨c, ?_, ?_, ?_⟩
    · rw [hc]
    · rw [hc]
    · exact OutputFile.decodedBody_armor (by rw [hc]; rfl)

/-- Contents that spell the marks of an armored body and of a block are no exception. -/
theorem process_copies_marks :
    let contents := Bytes.ofText "<<levobase64>><<levo filename:a>>b<<levo>>"
    let steps : List (Step TemplateRenderer) :=
      [.addTemplate "Logo.LTX" contents "1.0" "img", .addTemplate "b.bin" [0, 255] "1.0" "",
        .addMapping ["b.bin"] [], .addMapping ["b.bin", "Logo.LTX"] []]
    let g := performAll steps (start {} {})
    let s : Source := ⟨"Logo.LTX", "img", "1.0", .opaqueFile (armor contents), 0⟩
    let files : List OutputFile := [⟨"b.bin", "", Bytes.ofText (armor [0, 255])⟩,
      ⟨"b.bin", "", Bytes.ofText (armor [0, 255])⟩, ⟨"Logo.LTX", "img", Bytes.ofText (armor contents)⟩]
    (process g).1 = .ok files ∧
      ∃ c : Contribution g files [⟨[1], []⟩] ⟨[1, 0], []⟩ [] s, c.file.fileName = "Logo.LTX" ∧
        c.file.directory = "img" ∧ c.file.decodedBody = .ok contents := by
  intro contents steps g s files
  have h : Reached _ g := (Reached.start {} ({} : TemplateRenderer)).performAll steps
  have hname : ¬ ∃ ending, ending <:+ "Logo.LTX".toList ∧ ending.map Char.toLower = ".lt".toList :=
    fun hn => absurd (isTemplateFileName_iff.2 hn) (by decide)
  have hs : Source.ofFile "Logo.LTX" contents formatVersion "img" 0 = .ok s := by decide
  have hok : (process g).1 = .ok files := by decide +kernel
  have hmem : s ∈ (⟨[1, 0], []⟩ : Mapping).sourcesIn g.registry := by decide
  exact ⟨hok, (process_copies h hname hs).2 files hok [⟨[1], []⟩] ⟨[1, 0], []⟩ [] (by decide) hmem⟩

end Stencil.Generator
