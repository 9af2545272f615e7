import Stencil.Proofs.Generator.Copies
import Stencil.Proofs.Generator.Independence
/-!
# Templates that have the same key

A registry tells sources apart by their places, and a template renderer by their keys, which run directory and file
name together. Where file names hold no `/`, one place belongs to a key (`Source.place_eq_of_key`). Otherwise several
templates can have one key, and the last of them answers for all: a run executes its body for each
(`process_eq_ok_iff_executed`).

A renderer that has parsed all sources has under every key what the last template of that key compiles to
(`TemplateRenderer.get?_settle`). This is `Knows`, which rendering preserves.
-/

namespace Stencil

/-! ## Keys -/

theorem eq_of_slash_append_eq {front front' back back' : List Char} (hback : '/' ∉ back) (hback' : '/' ∉ back')
    (h : front ++ '/' :: back = front' ++ '/' :: back') : front = front' ∧ back = back' := by
  rcases List.append_eq_append_iff.1 h with ⟨between, rfl, hmid⟩ | ⟨between, rfl, hmid⟩
  · cases between with
    | nil => simpa using hmid
    | cons c between =>
      obtain ⟨-, rfl⟩ := List.cons_eq_cons.1 hmid
      exact absurd (by simp) hback
  · cases between with
    | nil => simpa [eq_comm] using hmid
    | cons c between =>
      obtain ⟨-, rfl⟩ := List.cons_eq_cons.1 hmid
      exact absurd (by simp) hback'

namespace Source

theorem toList_key (s : Source) : s.key.toList =
    if s.directory = "" then s.fileName.toList else s.directory.toList ++ '/' :: s.fileName.toList := by
  unfold key
  by_cases hd : s.directory = ""
  · simp [hd]
  · simp [hd]

/-- Without a `/` in the file names a key belongs to one place. -/
theorem place_eq_of_key {s s' : Source} (h : s.key = s'.key) (hs : '/' ∉ s.fileName.toList)
    (hs' : '/' ∉ s'.fileName.toList) : s.place = s'.place := by
  have hkey := congrArg String.toList h
  rw [toList_key, toList_key] at hkey
  unfold place
  split at hkey <;> split at hkey
  · next hd hd' => rw [hd, hd', String.toList_inj.1 hkey]
  · exact absurd (hkey ▸ by simp) hs
  · exact absurd (hkey ▸ by simp) hs'
  · obtain ⟨hdirectory, hname⟩ := eq_of_slash_append_eq hs hs' hkey
    rw [String.toList_inj.1 hdirectory, String.toList_inj.1 hname]

end Source

namespace Registry

/-- The template whose body a renderer has under the key of a source: the last one that is registered for this
renderer with this key. -/
def answering? (r : Registry) (s : Source) : Option Source :=
  (r.sources.filter fun x => isTemplateFileName x.fileName && x.renderer == s.renderer && x.key == s.key).getLast?

theorem answering?_eq_some {r : Registry} {s s' : Source} (h : r.answering? s = some s') :
    s' ∈ r.sources ∧ isTemplateFileName s'.fileName = true ∧ s'.renderer = s.renderer ∧ s'.key = s.key := by
  simpa [and_assoc] using List.mem_filter.1 (List.mem_of_getLast? h)

theorem answering?_eq_none_iff {r : Registry} {s : Source} : r.answering? s = none ↔
    ∀ x ∈ r.sources, isTemplateFileName x.fileName = true → x.renderer = s.renderer → x.key ≠ s.key := by
  rw [answering?, List.getLast?_eq_none_iff, List.filter_eq_nil_iff]
  simp only [Bool.and_eq_true, beq_iff_eq, and_assoc, not_and, ne_eq]

theorem answering?_of_append {r : Registry} {before after : List Source} {s : Source}
    (hr : r.sources = before ++ s :: after) (ht : isTemplateFileName s.fileName = true) :
    r.answering? s = (answering? ⟨after⟩ s).or (some s) := by
  rw [answering?, hr, List.filter_append, List.filter_cons_of_pos (by simp [ht]), List.getLast?_append,
    List.getLast?_cons, Option.some_or, answering?]
  cases List.getLast? _ with
  | none => rfl
  | some a => rfl

/-- A template answers for itself if no later one has its key. -/
theorem answering?_eq_self {r : Registry} {before after : List Source} {s : Source} (hd : r.Distinct)
    (hr : r.sources = before ++ s :: after) (ht : isTemplateFileName s.fileName = true) :
    r.answering? s = some s ↔ ∀ s' ∈ after, isTemplateFileName s'.fileName = true →
      s'.renderer = s.renderer → s'.key ≠ s.key := by
  have hs : s ∉ after := by
    have hnodup : r.sources.Nodup := hd.of_map _
    rw [hr, List.nodup_append, List.nodup_cons] at hnodup
    exact hnodup.2.1.1
  rw [answering?_of_append hr ht, ← answering?_eq_none_iff (r := ⟨after⟩)]
  cases ha : answering? ⟨after⟩ s with
  | none => simp
  | some a =>
    have hne : a ≠ s := fun heq => hs (heq ▸ (answering?_eq_some ha).1)
    simpa using hne

end Registry

/-! ## What a renderer has under a key -/

namespace TemplateRenderer

/-- The last source with the key that has an entry decides. -/
theorem get?_settle (sources : List Source) (t : TemplateRenderer) (key : String) :
    (settle sources t).compiled.get? key =
      match (sources.filter fun s => (learned? s).isSome && s.key == key).getLast? with
      | some s => learned? s
      | none => t.compiled.get? key := by
  induction sources generalizing t with
  | nil => rfl
  | cons s rest ih =>
    rw [show settle (s :: rest) t = settle rest (learn s t) from rfl, ih (learn s t), List.filter_cons]
    by_cases hs : ((learned? s).isSome && s.key == key) = true
    · rw [if_pos hs, List.getLast?_cons]
      rw [Bool.and_eq_true, beq_iff_eq, Option.isSome_iff_exists] at hs
      obtain ⟨⟨elements, he⟩, rfl⟩ := hs
      cases (rest.filter fun x => (learned? x).isSome && x.key == s.key).getLast? with
      | none => simpa [he] using get?_learn_self he t
      | some a => rfl
    · rw [if_neg hs, get?_learn_of_ne]
      by_cases he : learned? s = none
      · exact .inl he
      · refine .inr ?_
        rintro rfl
        exact hs (by simp [Option.isSome_iff_ne_none, he])

theorem learned?_of_parse {s : Source} {t t' : TemplateRenderer} (hs : s.FromFile)
    (h : Renderer.parse s t = (.ok (), t')) : (learned? s).isSome = isTemplateFileName s.fileName := by
  simp only [Renderer.parse, parse] at h
  unfold learned?
  by_cases hv : s.version = formatVersion
  · cases ht : isTemplateFileName s.fileName with
    | false =>
      obtain ⟨contents, hb⟩ := hs.opaqueFile ht
      simp [hv, hb]
    | true =>
      obtain ⟨text, hb⟩ := hs.template ht
      cases hc : Template.compile? text with
      | none => simp [hv, hb, hc] at h
      | some elements => simp [hv, hb, hc]
  · simp [hv] at h

end TemplateRenderer

end Stencil

namespace Stencil.Generator

/-! ## The renderers after parsing -/

/-- Every renderer has parsed the sources that are bound to it. -/
theorem Parsed.settled {rs out : List TemplateRenderer} {sources : List Source} (h : Parsed rs sources out) (i : Nat) :
    out[i]? = rs[i]?.map (TemplateRenderer.settle (boundTo i sources)) := by
  induction h with
  | nil rs => exact Option.map_id'.symm
  | @cons rs out t t' s rest ht hp _ ih =>
    obtain rfl : t' = TemplateRenderer.learn s t := by rw [← (TemplateRenderer.parse_eq s t t).2, hp]
    rw [ih]
    by_cases hi : i = s.renderer
    · subst hi
      rw [List.getElem?_set_self (List.getElem?_eq_some_iff.1 ht).1, ht, boundTo_cons_self]
      rfl
    · rw [List.getElem?_set_ne (Ne.symm hi), boundTo_cons_of_ne hi]

theorem Parsed.entries {rs out : List TemplateRenderer} {sources : List Source} (h : Parsed rs sources out)
    (hfiles : ∀ s ∈ sources, s.FromFile) :
    ∀ s ∈ sources, (TemplateRenderer.learned? s).isSome = isTemplateFileName s.fileName := by
  induction h with
  | nil => exact List.forall_mem_nil _
  | cons _ hp _ ih =>
    rw [List.forall_mem_cons] at hfiles ⊢
    exact ⟨TemplateRenderer.learned?_of_parse hfiles.1 hp, ih hfiles.2⟩

/-- The renderers have under the key of every template what the body of the one compiles to that answers for it. -/
def Knows (r : Registry) (rs : List TemplateRenderer) : Prop :=
  ∀ s ∈ r.sources, isTemplateFileName s.fileName = true → ∀ t, rs[s.renderer]? = some t →
    ∃ s' text elements, r.answering? s = some s' ∧ s'.body = .template text ∧
      Template.compile? text = some elements ∧ t.compiled.get? s.key = some elements

theorem Parsed.knows {rs out : List TemplateRenderer} {r : Registry} (h : Parsed rs r.sources out)
    (hfiles : ∀ s ∈ r.sources, s.FromFile) : Knows r out := by
  intro s hs ht t ht'
  obtain ⟨t, -, rfl⟩ := Option.map_eq_some_iff.1 ((h.settled s.renderer).symm.trans ht')
  have hentries := h.entries hfiles
  obtain ⟨s', hs'⟩ : ∃ s', r.answering? s = some s' :=
    Option.ne_none_iff_exists'.1 fun hnone => Registry.answering?_eq_none_iff.1 hnone s hs ht rfl rfl
  obtain ⟨hmem, htemplate, -, -⟩ := Registry.answering?_eq_some hs'
  obtain ⟨elements, he⟩ := Option.isSome_iff_exists.1 ((hentries s' hmem).trans htemplate)
  obtain ⟨text, hbody, hcompile⟩ := TemplateRenderer.learned?_eq_some he
  refine ⟨s', text, elements, hs', hbody, hcompile, ?_⟩
  -- the sources of this renderer that have an entry are its templates
  have hfilter : ((boundTo s.renderer r.sources).filter fun x =>
      (TemplateRenderer.learned? x).isSome && x.key == s.key) = r.sources.filter fun x =>
        isTemplateFileName x.fileName && x.renderer == s.renderer && x.key == s.key := by
    rw [boundTo, List.filter_filter]
    refine List.filter_congr fun x hx => ?_
    rw [hentries x hx, Bool.and_right_comm]
  rw [TemplateRenderer.get?_settle, hfilter]
  simp only [show List.getLast? _ = _ from hs', he]

/-- Rendering preserves this, as it leaves the compiled templates alone. -/
theorem Knows.set {r : Registry} {rs : List TemplateRenderer} {i : Nat} {t t' : TemplateRenderer}
    (h : Knows r rs) (ht : rs[i]? = some t) (hsame : t'.compiled = t.compiled) : Knows r (rs.set i t') := by
  intro s hs hs' x hx
  rcases of_getElem?_set hx with ⟨rfl, rfl⟩ | ⟨-, hx⟩
  · rw [hsame]
    exact h s hs hs' t ht
  · exact h s hs hs' x hx

/-! ## Executing -/

/-- The text and the custom types afterwards, when the body of the template that answers for a source is compiled and
executed under its key. -/
def Executes (r : Registry) (s : Source) (c : Context) (t : TemplateRenderer) (text : String) (types : CustomTypes) :
    Prop :=
  ∃ s' body elements, r.answering? s = some s' ∧ s'.body = .template body ∧ Template.compile? body = some elements ∧
    Template.Env.run ⟨t.compiled, c.sanitized.toJson⟩ s.key elements t.types = (.ok text, types)

/-- All sources are rendered in their contexts, one after another: a template is executed, and of any other source
there is one file, which holds what is stored. -/
inductive Executed (r : Registry) : List TemplateRenderer → List (Source × Context) → List OutputFile →
    List TemplateRenderer → Prop
  | nil (rs : List TemplateRenderer) : Executed r rs [] [] rs
  | template {rs rs' : List TemplateRenderer} {t : TemplateRenderer} {s : Source} {c : Context} {text : String}
      {types : CustomTypes} {rest : List (Source × Context)} {files : List OutputFile} :
      isTemplateFileName s.fileName = true → rs[s.renderer]? = some t → Executes r s c t text types →
      Executed r (rs.set s.renderer { t with types }) rest files rs' →
      Executed r rs ((s, c) :: rest) (extractFiles text s.directory ++ files) rs'
  | stored {rs rs' : List TemplateRenderer} {s : Source} {c : Context} {rest : List (Source × Context)}
      {files : List OutputFile} :
      isTemplateFileName s.fileName = false → Executed r rs rest files rs' →
      Executed r rs ((s, c) :: rest) (⟨s.fileName, s.directory, Bytes.ofText s.body.text⟩ :: files) rs'

theorem Knows.render_eq_iff {r : Registry} {rs : List TemplateRenderer} (hk : Knows r rs) {s : Source}
    (hs : s ∈ r.sources) (ht : isTemplateFileName s.fileName = true) {t t' : TemplateRenderer}
    (hr : rs[s.renderer]? = some t) {c : Context} {text : String} :
    Renderer.render s c t = (.ok text, t') ↔ ∃ types, Executes r s c t text types ∧ t' = { t with types } := by
  obtain ⟨s', body, elements, hs', hbody, hcompile, hget⟩ := hk s hs ht t hr
  have hexec (types : CustomTypes) : Executes r s c t text types ↔
      Template.Env.run ⟨t.compiled, c.sanitized.toJson⟩ s.key elements t.types = (.ok text, types) := by
    simp [Executes, hs', hbody, hcompile]
  simp only [hexec, Renderer.render, TemplateRenderer.render, hget]
  rcases Template.Env.run ⟨t.compiled, c.sanitized.toJson⟩ s.key elements t.types with ⟨_ | _, types⟩
  · simp
  · simp [eq_comm]

theorem rendered_iff_executed {r : Registry} {rs out : List TemplateRenderer} {jobs : List (Source × Context)}
    {files : List OutputFile} (hk : Knows r rs) (hjobs : ∀ job ∈ jobs, job.1 ∈ r.sources) :
    Rendered rs jobs files out ↔ Executed r rs jobs files out := by
  induction jobs generalizing rs files with
  | nil => exact ⟨fun | .nil _ => .nil rs, fun | .nil _ => .nil rs⟩
  | cons job rest ih =>
    obtain ⟨s, c⟩ := job
    rw [List.forall_mem_cons] at hjobs
    obtain ⟨hs, hrest⟩ := hjobs
    constructor
    · intro h
      cases h with
      | @template _ _ t t' _ _ text _ _ ht hr hrender h =>
        obtain ⟨types, hexec, rfl⟩ := (hk.render_eq_iff hs ht hr).1 hrender
        have hk' : Knows r (rs.set s.renderer { t with types }) := hk.set hr rfl
        exact .template ht hr hexec ((ih hk' hrest).1 h)
      | stored ht h => exact .stored ht ((ih hk hrest).1 h)
    · intro h
      cases h with
      | @template _ _ t _ _ text types _ _ ht hr hexec h =>
        have hrender := (hk.render_eq_iff hs ht hr).2 ⟨types, hexec, rfl⟩
        have hk' : Knows r (rs.set s.renderer { t with types }) := hk.set hr rfl
        exact .template ht hr hrender ((ih hk' hrest).2 h)
      | stored ht h => exact .stored ht ((ih hk hrest).2 h)

/-- For every template that is mapped, a run executes the body of the last one that has its key, in place of its own
if another one comes later. Two sources have one key only if there is a `/` in a file name. -/
theorem process_eq_ok_iff_executed {given : List TemplateRenderer} {g : Generator TemplateRenderer}
    (h : Reached given g) :
    (∀ files, (process g).1 = .ok files ↔ g.mappings ≠ [] ∧ ∃ ready last,
      Parsed (g.renderers.map Renderer.reset) g.registry.sources ready ∧
        Executed g.registry ready g.jobs files last) ∧
    (∀ before s after, g.registry.sources = before ++ s :: after → isTemplateFileName s.fileName = true →
      (g.registry.answering? s = some s ↔ ∀ s' ∈ after, isTemplateFileName s'.fileName = true →
        s'.renderer = s.renderer → s'.key ≠ s.key)) ∧
    ∀ s ∈ g.registry.sources, ∀ s' ∈ g.registry.sources, s ≠ s' → s.key = s'.key →
      '/' ∈ s.fileName.toList ∨ '/' ∈ s'.fileName.toList := by
  refine ⟨fun files => ?_, fun before s after => Registry.answering?_eq_self h.distinct,
    fun s hs s' hs' hne hkey => ?_⟩
  · have hfiles : ∀ s ∈ g.registry.sources, s.FromFile := fun s hs => (h.bound s hs).1
    have hjobs : ∀ job ∈ g.jobs, job.1 ∈ g.registry.sources := fun _ => mem_sources_of_mem_jobs
    constructor
    · intro hok
      cases ends_of_process h.bound hok with
      | done hm hparsed hrendered =>
        exact ⟨hm, _, _, hparsed, (rendered_iff_executed (hparsed.knows hfiles) hjobs).1 hrendered⟩
    · rintro ⟨hm, ready, last, hparsed, hexecuted⟩
      have hdone : g.Ends (.ok files) :=
        .done hm hparsed ((rendered_iff_executed (hparsed.knows hfiles) hjobs).2 hexecuted)
      exact hdone.run_outcome h.bound
  · by_contra hslash
    rw [not_or] at hslash
    have hplace := Source.place_eq_of_key hkey hslash.1 hslash.2
    exact hne (List.inj_on_of_nodup_map h.distinct hs hs' hplace)

/-- A template in a directory gives the file that another one describes, whose name spells the directory. -/
theorem process_eq_ok_iff_executed_slash :
    let steps : List (Step TemplateRenderer) :=
      [.addTemplate "b.lt" (Bytes.ofText "<<levo filename:one>>1<<levo>>") "1.0" "a",
        .addTemplate "a/b.lt" (Bytes.ofText "<<levo filename:two>>2<<levo>>") "1.0" "",
        .addMapping ["b.lt"] []]
    let g := performAll steps (start {} {})
    let one : Source := ⟨"b.lt", "a", "1.0", .template "<<levo filename:one>>1<<levo>>", 0⟩
    let two : Source := ⟨"a/b.lt", "", "1.0", .template "<<levo filename:two>>2<<levo>>", 0⟩
    let files : List OutputFile := [⟨"two", "a", Bytes.ofText "2"⟩]
    g.jobs.map (·.1) = [one] ∧ (process g).1 = .ok files ∧ g.registry.answering? one = some two ∧
      (∃ ready last, Executed g.registry ready g.jobs files last) ∧ g.registry.answering? one ≠ some one := by
  intro steps g one two files
  have h : Reached _ g := (Reached.start {} ({} : TemplateRenderer)).performAll steps
  obtain ⟨hruns, hself, -⟩ := process_eq_ok_iff_executed h
  have hok : (process g).1 = .ok files := by decide +kernel
  obtain ⟨-, ready, last, -, hexecuted⟩ := (hruns files).1 hok
  refine ⟨by decide, hok, by decide, ⟨ready, last, hexecuted⟩, ?_⟩
  intro hone
  exact (hself [] one [two] (by decide) (by decide)).1 hone two (by simp) (by decide) (by decide) (by decide)

end Stencil.Generator
