import Stencil.Proofs.Generator.Copies
import Stencil.Proofs.Output.Overwriting
/-!
# What is on disk after a run

Armored octets and the files of a template are bodies of one kind, and a writer tells them apart by the armor mark
alone. So the octets of opaque files come back as they were registered, and a file of a template is written as it is,
unless its body begins with the mark: then what follows is decoded, which never gives the body itself
(`written_of_process`).
-/

namespace Stencil

variable {current : Place} {root : String} {tree : FileTree} {files : List OutputFile} {paths : List String}

/-- When all files have been written, each has octets, which stand at its destination unless a later file has the
same one. -/
theorem decoded_of_writeFiles (h : (writeFiles current root tree files).1 = .ok paths)
    {earlier later : List OutputFile} {f : OutputFile} (hfiles : files = earlier ++ f :: later) :
    ∃ contents, f.decodedBody = .ok contents ∧
      ((∀ f' ∈ later, f'.destination current root ≠ f.destination current root) →
        (writeFiles current root tree files).2.file? (f.destination current root) = some contents) := by
  have hprogress := progress_of_writeFiles h
  cases hbody : f.decodedBody with
  | error fault => exact absurd (.body fault hbody) (hprogress.written earlier f later hfiles)
  | ok contents =>
    refine ⟨contents, rfl, fun hlast => ?_⟩
    rw [hprogress.file?, hfiles, View.file?_overwritten_last hlast, hbody]
    rfl

namespace Generator

variable {ρ : Type} [Renderer ρ]

/-- What is on disk of the files of one job when all files of a run have been written. An opaque file has the octets
that were registered. A file of a template has its body, or what the rest of the body decodes to if it begins with the
armor mark. -/
theorem written_of_process {given : List ρ} {g : Generator ρ} (h : Reached given g) {files : List OutputFile}
    (hok : (process g).1 = .ok files) {before after : List (Source × Context)} {s : Source} {c : Context}
    (hjobs : g.jobs = before ++ (s, c) :: after) :
    ∃ ready front mid share next back last, files = front ++ share ++ back ∧
      Parsed (g.renderers.map Renderer.reset) g.registry.sources ready ∧ Rendered ready before front mid ∧
      Rendered mid [(s, c)] share next ∧ Rendered next after back last ∧
      ∀ current root tree paths, (writeFiles current root tree files).1 = .ok paths →
        ∀ earlier f later, share = earlier ++ f :: later →
          ∃ contents, ((∀ f' ∈ later ++ back, f'.destination current root ≠ f.destination current root) →
              (writeFiles current root tree files).2.file? (f.destination current root) = some contents) ∧
            (isTemplateFileName s.fileName = true →
              ¬ Bytes.ofText armorMark <+: f.body ∧ contents = f.body ∨
              ∃ encoded, f.body = Bytes.ofText armorMark ++ encoded ∧
                Bytes.Base64.decode encoded = .ok contents ∧ contents ≠ f.body) ∧
            (isTemplateFileName s.fileName = false →
              Source.ofFile s.fileName contents s.version s.directory s.renderer = .ok s) := by
  cases ends_of_process h.bound hok with
  | done _ hparsed hrendered =>
    -- what comes before the job, the job, and what comes after it
    rw [hjobs] at hrendered
    obtain ⟨front, rest, mid, rfl, hfront, hrest⟩ := hrendered.of_append
    rw [← List.singleton_append] at hrest
    obtain ⟨share, back, next, rfl, hshare, hback⟩ := hrest.of_append
    refine ⟨_, front, mid, share, next, back, _, (List.append_assoc _ _ _).symm, hparsed, hfront, hshare, hback, ?_⟩
    intro current root tree paths hwritten earlier f later hsplit
    have hfiles : front ++ (share ++ back) = (front ++ earlier) ++ f :: (later ++ back) := by simp [hsplit]
    obtain ⟨contents, hbody, hdisk⟩ := decoded_of_writeFiles hwritten hfiles
    refine ⟨contents, hdisk, fun _ => ?_, fun ht => ?_⟩
    · refine (OutputFile.decodedBody_eq_ok_iff.1 hbody).imp_right ?_
      rintro ⟨encoded, heq, hdecode⟩
      exact ⟨encoded, heq, hdecode, OutputFile.decode_ne_body heq hdecode⟩
    · obtain ⟨octets, hoctets⟩ := (h.bound.jobs (s, c) (hjobs ▸ by simp)).1
      have hstored : f.body = Bytes.ofText (armor octets) := by
        obtain ⟨none, rfl, hnone⟩ := hshare.of_stored ht
        cases hnone
        have hf : f ∈ [(⟨s.fileName, s.directory, Bytes.ofText s.body.text⟩ : OutputFile)] := by simp [hsplit]
        rw [List.mem_singleton.1 hf, Source.body_of_ofFile ht hoctets, SourceBody.text]
      cases hbody.symm.trans (OutputFile.decodedBody_armor hstored)
      exact hoctets

/-- The text of a template spells the mark, and the base64 behind it is decoded like that of an opaque file. -/
theorem written_of_process_mark :
    let steps : List (Step TemplateRenderer) :=
      [.addTemplate "a.lt" (Bytes.ofText "<<levo filename:a>><<levobase64>>QQ==<<levo>>") "1.0" "",
        .addTemplate "b.bin" [0, 255] "1.0" "", .addMapping ["b.bin", "a.lt"] []]
    let g := performAll steps (start {} {})
    let f : OutputFile := ⟨"a", "", Bytes.ofText "<<levobase64>>QQ=="⟩
    let files : List OutputFile := [⟨"b.bin", "", Bytes.ofText (armor [0, 255])⟩, f]
    let written := writeFiles [] "/out" {} files
    (process g).1 = .ok files ∧ written.1 = .ok ["/out/b.bin", "/out/a"] ∧
      ∃ contents, written.2.file? ["out", "a"] = some contents ∧ contents ≠ f.body := by
  intro steps g f files written
  have h : Reached _ g := (Reached.start {} ({} : TemplateRenderer)).performAll steps
  have hok : (process g).1 = .ok files := by decide +kernel
  have hwritten : written.1 = .ok ["/out/b.bin", "/out/a"] := by decide +kernel
  refine ⟨hok, hwritten, ?_⟩
  let c := g.contextOf ⟨[1, 0], []⟩
  have hjobs : g.jobs = [(⟨"b.bin", "", "1.0", .opaqueFile (armor [0, 255]), 0⟩, c)] ++
      (⟨"a.lt", "", "1.0", .template "<<levo filename:a>><<levobase64>>QQ==<<levo>>", 0⟩, c) :: [] := by rfl
  obtain ⟨ready, front, mid, share, next, back, last, hfiles, -, hfront, -, hback, hdisk⟩ :=
    written_of_process h hok hjobs
  obtain ⟨front, rfl, hnil⟩ := hfront.of_stored (by decide)
  cases hnil
  cases hback
  have hshare : share = [f] := by simpa [files, SourceBody.text] using hfiles.symm
  obtain ⟨contents, hfile, hcontents, -⟩ := hdisk [] "/out" {} _ hwritten [] f [] hshare
  have hplace : f.destination [] "/out" = ["out", "a"] := by decide
  refine ⟨contents, hplace ▸ hfile (by simp), ?_⟩
  rcases hcontents (by decide) with ⟨hmark, -⟩ | ⟨encoded, -, -, hne⟩
  · exact absurd (by decide) hmark
  · exact hne

end Generator

end Stencil
