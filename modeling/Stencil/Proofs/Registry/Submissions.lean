import Stencil.Proofs.Generator.History
import Stencil.Renderer.Echo
/-!
# A registry holds what was submitted to it

A `Submission` is a file as it is handed to a registry, and a `Call` submits one file, the file at a path, or every
file of a directory. `Inv` ties a registry to the submissions that it has taken: its sources are made of them one by
one, in order, and no two have the same place. A call that succeeds appends (`inv_attempt`), so `inv_performAll`
needs one induction.
-/

namespace Stencil.Registry

/-! ## Submissions -/

/-- A file as it is handed to a registry. -/
structure Submission where
  fileName : String
  contents : Bytes
  version : String
  directory : String
  renderer : Nat
deriving Repr, DecidableEq

/-- The source is what a registry makes of the file. -/
structure Submission.Makes (f : Submission) (s : Source) : Prop where
  fileName_eq : s.fileName = f.fileName
  directory_eq : s.directory = f.directory
  version_eq : s.version = f.version
  renderer_eq : s.renderer = f.renderer
  fileName_ne : s.fileName ≠ ""
  version_ne : s.version ≠ ""
  isOpaque_iff : s.body.isOpaque = true ↔ ¬ ".lt".toList <:+ (Text.lower s.fileName).toList
  template : ∀ text, s.body = .template text → Bytes.ofText text = f.contents
  opaqueFile : ∀ armored, s.body = .opaqueFile armored → armored = armor f.contents

theorem isTemplateFileName_iff_lower (fileName : String) :
    isTemplateFileName fileName = true ↔ ".lt".toList <:+ (Text.lower fileName).toList := by
  simp [isTemplateFileName, templateSuffix, Text.lower]

theorem Submission.makes_of_ofFile {f : Submission} {s : Source}
    (h : Source.ofFile f.fileName f.contents f.version f.directory f.renderer = .ok s) : f.Makes s := by
  obtain ⟨hname, hversion, body, hbody, rfl⟩ := Source.ofFile_eq_ok_iff.1 h
  have hsuffix := isTemplateFileName_iff_lower f.fileName
  rcases SourceBody.ofFile_eq_ok_iff.1 hbody with ⟨ht, text, htext, rfl⟩ | ⟨ht, rfl⟩
  · refine ⟨rfl, rfl, rfl, rfl, hname, hversion, ?_, ?_, ?_⟩
    · simpa [SourceBody.isOpaque] using hsuffix.1 ht
    · intro t h
      cases h
      exact Bytes.toText_eq_ok_iff.1 htext
    · intro _ h
      cases h
  · refine ⟨rfl, rfl, rfl, rfl, hname, hversion, ?_, ?_, ?_⟩
    · rw [← hsuffix, ht]
      simp [SourceBody.isOpaque]
    · intro _ h
      cases h
    · intro a h
      cases h
      rfl

/-! ## Calls -/

/-- A call of a registry. -/
inductive Call where
  | add (f : Submission)
  | addFile (tree : FileTree) (current : Place) (path : String) (renderer : Nat)
  | addDirectory (tree : FileTree) (current : Place) (path : String) (renderer : Nat)

namespace Call

def attempt (r : Registry) : Call → Except Error Registry
  | add f => r.add f.fileName f.contents f.version f.directory f.renderer
  | addFile tree current path renderer => r.addFile tree current path renderer
  | addDirectory tree current path renderer => r.addDirectory tree current path renderer

/-- The files that the call submits. -/
def submissions : Call → List Submission
  | add f => [f]
  | addFile tree current path renderer =>
    match Path.fileName? path, tree.read? current path with
    | some fileName, some contents => [⟨fileName, contents, formatVersion, "", renderer⟩]
    | _, _ => []
  | addDirectory tree current path renderer =>
    ((walk? tree current path).getD []).map fun f =>
      ⟨f.fileName, f.contents, formatVersion, f.directory, renderer⟩

end Call

/-- The registry after calls, each of which leaves it as it was if it is refused. -/
def performAll (r : Registry) : List Call → Registry
  | [] => r
  | c :: calls =>
    match c.attempt r with
    | .ok r' => performAll r' calls
    | .error _ => performAll r calls

/-- What is submitted by those of the calls that succeed. -/
def taken (r : Registry) : List Call → List Submission
  | [] => []
  | c :: calls =>
    match c.attempt r with
    | .ok r' => c.submissions ++ taken r' calls
    | .error _ => taken r calls

/-! ## What a registry holds -/

/-- The registry has taken the files. -/
structure Inv (files : List Submission) (r : Registry) : Prop where
  distinct : r.Distinct
  made : List.Forall₂ Submission.Makes files r.sources

/-- What a call adds is made of the files that it submits. -/
theorem attempt_eq_ok {c : Call} {r r' : Registry} (h : c.attempt r = .ok r') :
    ∃ added, r'.sources = r.sources ++ added ∧ List.Forall₂ Submission.Makes c.submissions added := by
  cases c with
  | add f =>
    obtain ⟨s, hs, -, rfl⟩ := add_eq_ok_iff.1 h
    exact ⟨[s], rfl, .cons (Submission.makes_of_ofFile hs) .nil⟩
  | addFile tree current path renderer =>
    simp only [Call.attempt, addFile] at h
    simp only [Call.submissions]
    split at h
    · cases h
    · next fileName hname =>
      split at h
      · cases h
      · next contents hread =>
        obtain ⟨s, hs, -, rfl⟩ := add_eq_ok_iff.1 h
        rw [hname, hread]
        exact ⟨[s], rfl, .cons (Submission.makes_of_ofFile hs) .nil⟩
  | addDirectory tree current path renderer =>
    obtain ⟨files, _, hfiles, hg, rfl⟩ := addDirectory_eq_ok h
    obtain ⟨_, rfl, hadded⟩ := gather_eq_ok hg
    refine ⟨_, rfl, ?_⟩
    rw [Call.submissions, hfiles, Option.getD_some, List.forall₂_map_left_iff]
    exact hadded.imp fun f s hs => Submission.makes_of_ofFile hs

theorem distinct_attempt {c : Call} {r r' : Registry} (h : c.attempt r = .ok r') (hd : r.Distinct) :
    r'.Distinct := by
  cases c with
  | add f => exact distinct_add h hd
  | addFile tree current path renderer => exact distinct_addFile h hd
  | addDirectory tree current path renderer => exact distinct_addDirectory h hd

theorem inv_attempt {c : Call} {files : List Submission} {r r' : Registry} (hi : Inv files r)
    (h : c.attempt r = .ok r') : Inv (files ++ c.submissions) r' := by
  obtain ⟨added, hr, hadded⟩ := attempt_eq_ok h
  refine ⟨distinct_attempt h hi.distinct, ?_⟩
  rw [hr]
  exact List.rel_append hi.made hadded

theorem inv_performAll {files : List Submission} {r : Registry} (hi : Inv files r) (calls : List Call) :
    Inv (files ++ taken r calls) (performAll r calls) := by
  induction calls generalizing files r with
  | nil => simpa [taken, performAll] using hi
  | cons c calls ih =>
    unfold taken performAll
    cases h : c.attempt r with
    | error e => exact ih hi
    | ok r' =>
      simp only [← List.append_assoc]
      exact ih (inv_attempt hi h)

theorem performAll_append (r : Registry) (calls later : List Call) :
    performAll r (calls ++ later) = performAll (performAll r calls) later := by
  induction calls generalizing r with
  | nil => rfl
  | cons c calls ih =>
    simp only [List.cons_append, performAll]
    cases c.attempt r with
    | error e => exact ih r
    | ok r' => exact ih r'

/-- Sources stay where they are. -/
theorem prefix_performAll (r : Registry) (calls : List Call) : r.sources <+: (performAll r calls).sources := by
  induction calls generalizing r with
  | nil => exact List.prefix_refl _
  | cons c calls ih =>
    unfold performAll
    cases h : c.attempt r with
    | error e => exact ih r
    | ok r' =>
      obtain ⟨added, hr, -⟩ := attempt_eq_ok h
      exact (hr ▸ List.prefix_append r.sources added).trans (ih r')

/-- A registry holds a source for every file that was submitted by a call that succeeded, in order and each at a
place of its own, and keeps it where it is whatever calls follow. The sources of a generator are bound to renderers
that it has, however many are added on the way. -/
theorem holds_taken (calls later : List Call) :
    (performAll {} calls).Distinct ∧
      List.Forall₂ Submission.Makes (taken {} calls) (performAll {} calls).sources ∧
      (∀ (i : Nat) (s : Source), (performAll {} calls).sources[i]? = some s →
        (performAll {} (calls ++ later)).sources[i]? = some s) ∧
      ∀ (ρ : Type) [Renderer ρ] (config : Config) (renderer : ρ) (steps : List (Generator.Step ρ)),
        let g := Generator.performAll steps (Generator.start config renderer)
        ∀ s ∈ g.registry.sources, s.renderer < g.renderers.length := by
  have hempty : Inv [] {} := ⟨List.nodup_nil, .nil⟩
  have hi := inv_performAll hempty calls
  rw [List.nil_append] at hi
  refine ⟨hi.distinct, hi.made, ?_, ?_⟩
  · intro i s hs
    obtain ⟨added, hadded⟩ := prefix_performAll (performAll {} calls) later
    rw [performAll_append, ← hadded, List.getElem?_append_left (List.getElem?_eq_some_iff.1 hs).1]
    exact hs
  · intro ρ _ config renderer steps g s hs
    exact (((Generator.Reached.start config renderer).performAll steps).bound s hs).2

/-- A file is refused at a place that is taken, however it is handed over, and a name in capitals is that of a
template as well. -/
theorem holds_taken_refused :
    let page : Submission := ⟨"PAGE.LT", Bytes.ofText "é", "1.0", "src", 0⟩
    let logo : Submission := ⟨"logo.lt.png", [0, 255], "2", "", 7⟩
    let tree : FileTree := ⟨[(["src", "PAGE.LT"], .file []), (["src"], .directory)]⟩
    let calls : List Call := [.add page, .addDirectory tree [] "src/PAGE.LT" 0, .add { page with renderer := 1 },
      .add logo]
    taken {} calls = [page, logo] ∧
      List.Forall₂ Submission.Makes [page, logo] (performAll {} calls).sources := by
  intro page logo tree calls
  have h : taken {} calls = [page, logo] := by decide +kernel
  exact ⟨h, h ▸ (holds_taken calls []).2.1⟩

end Stencil.Registry
