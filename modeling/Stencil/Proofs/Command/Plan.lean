import Stencil.Command.Generation
import Stencil.Proofs.Command.Arguments
import Stencil.Proofs.Output.EmptyRoot
/-!
# What a dry run promises

A dry run makes the files just as the command that writes does (`run_eq`), and lists their paths without another look at
them. So it also lists what a writer refuses: paths that lead out of the root, paths that do not fit together, bodies
that do not decode. Into an empty directory the command writes what was listed if there are none of these, and not
otherwise (`execute_writes_listed_iff`).
-/

namespace Stencil.Command

variable {tree : FileTree} {current out : Place} {root text : String} {o : Options} {file : ProjectFile}
  {files : List OutputFile} {output : Option String}

/-! ## The two commands -/

/-- What comes out of a run. -/
def Outcome.ofRun : Except Failure String → Outcome
  | .ok text => .printed text
  | .error failure => .failed failure

theorem execute_of_generate {arguments : List String} (h : Task.ofArguments arguments = .ok (.generate o)) :
    execute tree current arguments = (.ofRun (run tree current o).1, (run tree current o).2) := by
  rw [execute, h]
  simp only
  generalize run tree current o = result
  obtain ⟨answer, after⟩ := result
  cases answer <;> rfl

theorem Outcome.ofRun_map_eq_failed_iff {α : Type} {answer : Except Failure α} {say : α → String} {failure : Failure} :
    ofRun (answer.map say) = .failed failure ↔ answer = .error failure := by
  cases answer <;> simp [ofRun, Except.map]

/-- Whether files are listed or written is decided when they have been made. -/
theorem run_eq (hfile : o.projectFile tree current = .ok file) :
    run tree current o =
      match generate tree current (o.settings file) with
      | .error failure => (.error failure, tree)
      | .ok files =>
        if o.dryRun then (.ok (plan files), tree) else deliver tree current (o.settings file).output files := by
  unfold run
  rw [hfile]
  cases hfiles : generate tree current (o.settings file) <;> simp [hfiles, bind, Except.bind, pure, Except.pure]

/-- Where files are written makes no difference to what they are. -/
theorem generate_writing (o : Options) (output : Option String) (file : ProjectFile) :
    generate tree current ((o.writing output).settings file) = generate tree current (o.settings file) := rfl

/-- What the command that writes comes to. -/
theorem execute_writing {arguments : List String} (h : Task.ofArguments arguments = .ok (.generate (o.writing output)))
    (hfile : o.projectFile tree current = .ok file) (houtput : (output <|> file.output) = some root)
    (hfiles : generate tree current (o.settings file) = .ok files) :
    execute tree current arguments =
      (.ofRun ((writeFiles current root tree files).1.map (summary · root)),
        (writeFiles current root tree files).2) := by
  have hproject : (o.writing output).projectFile tree current = .ok file := hfile
  have hroot : ((o.writing output).settings file).output = some root := houtput
  have hrun : run tree current (o.writing output) = deliver tree current (some root) files := by
    rw [run_eq hproject, generate_writing, hfiles, hroot]
    rfl
  rw [execute_of_generate h, hrun]
  rfl

/-- A dry run lists the paths of the files, and touches none. -/
theorem execute_dryRun {arguments : List String} (h : Task.ofArguments arguments = .ok (.generate o))
    (hlists : o.dryRun = true) (hfile : o.projectFile tree current = .ok file)
    (hprinted : (execute tree current arguments).1 = .printed text) :
    ∃ files, generate tree current (o.settings file) = .ok files ∧ text = plan files ∧
      (execute tree current arguments).2 = tree := by
  rw [execute_of_generate h, run_eq hfile] at hprinted ⊢
  cases hfiles : generate tree current (o.settings file) with
  | error failure =>
    rw [hfiles] at hprinted
    cases hprinted
  | ok files =>
    simp only [hfiles, hlists, if_true, Outcome.ofRun, Outcome.printed.injEq] at hprinted ⊢
    exact ⟨files, rfl, hprinted.symm, trivial⟩

/-! ## What was listed -/

/-- The command has written what was listed: it says how many files they are, and what is different from before are
the places to which their paths lead below the root. -/
structure WritesListed (tree : FileTree) (current : Place) (root : String) (files : List OutputFile)
    (result : Outcome × FileTree) : Prop where
  said : result.1 = .printed (summary (files.map (·.pathBelow root)) root)
  changed : ∀ p, result.2.file? p ≠ tree.file? p ↔ ∃ f ∈ files, f.destination current root = p

/-- A dry run, and the command that is the same without its flag and has an empty directory for its output. That writes
what was listed if the files fit together and all bodies decode, and not otherwise. It fails for a path if one of them
leads out of the root; for a body only if one does not decode, and always then if the files fit together. -/
theorem execute_writes_listed_iff {dry wet : List String} (hdry : Task.ofArguments dry = .ok (.generate o))
    (hlists : o.dryRun = true) (hwet : Task.ofArguments wet = .ok (.generate (o.writing output)))
    (hfile : o.projectFile tree current = .ok file) (houtput : (output <|> file.output) = some root)
    (hroot : tree.EmptyRoot current root out) (hprinted : (execute tree current dry).1 = .printed text) :
    (∀ before after, dry = before ++ dryRunArgument :: after →
      Task.ofArguments (before ++ after) = .ok (.generate (o.writing o.output))) ∧
    ∃ files, generate tree current (o.settings file) = .ok files ∧ text = plan files ∧
      (execute tree current dry).2 = tree ∧
      (WritesListed tree current root files (execute tree current wet) ↔
        FitTogether root files ∧ ∀ f ∈ files, f.Decodes) ∧
      ((∃ path, (execute tree current wet).1 = .failed (.unsafePath path)) ↔
        ∃ f ∈ files, Path.isContained f.path = false) ∧
      ((∃ fault, (execute tree current wet).1 = .failed (.generation (.undecodable fault))) →
        ∃ f ∈ files, ¬ f.Decodes) ∧
      (FitTogether root files → (∃ f ∈ files, ¬ f.Decodes) →
        ∃ fault, (execute tree current wet).1 = .failed (.generation (.undecodable fault))) := by
  refine ⟨fun before after hdropped => (ofArguments_without_dryRun (hdropped ▸ hdry)).2, ?_⟩
  obtain ⟨files, hfiles, htext, hafter⟩ := execute_dryRun hdry hlists hfile hprinted
  rw [execute_writing hwet hfile houtput hfiles]
  simp only [Outcome.ofRun_map_eq_failed_iff]
  refine ⟨files, hfiles, htext, hafter, ⟨fun h => ?_, fun ⟨hfit, hdecodes⟩ => ?_⟩, writeFiles_unsafePath_iff,
    fun ⟨fault, herror⟩ => ?_, fun hfit hbody => hfit.exists_undecodable hroot hbody⟩
  · rw [← writeFiles_empty_iff hroot]
    have hsaid := h.said
    cases hwritten : (writeFiles current root tree files).1 with
    | error failure =>
      rw [hwritten] at hsaid
      cases hsaid
    | ok paths => exact ⟨paths, rfl⟩
  · refine ⟨?_, hfit.changed_iff hroot hdecodes⟩
    rw [hfit.writeFiles_eq_ok hroot hdecodes]
    rfl
  · obtain ⟨f, hf, hbody⟩ := exists_of_writeFiles_undecodable herror
    exact ⟨f, hf, OutputFile.not_decodes_iff.2 ⟨fault, hbody⟩⟩

/-- One of the two files would lie outside, so neither is written. -/
theorem execute_writes_listed_escaping :
    let page := "<<levo filename:a>>1<<levo>><<levo filename:../b>>2<<levo>>"
    let tree : FileTree :=
      ⟨[(["set", "page.lt"], .file (Bytes.ofText page)), (["set"], .directory), (["out"], .directory)]⟩
    let files : List OutputFile := [⟨"a", "", Bytes.ofText "1"⟩, ⟨"../b", "", Bytes.ofText "2"⟩]
    let wet := ["-t", "set", "-o", "out"]
    let dry := wet ++ ["--dry-run"]
    (execute tree [] dry).1 = .printed "a\n../b\n" ∧ plan files = "a\n../b\n" ∧ tree.EmptyRoot [] "out" ["out"] ∧
      (∃ path, (execute tree [] wet).1 = .failed (.unsafePath path)) ∧
      ¬ WritesListed tree [] "out" files (execute tree [] wet) := by
  intro page tree files wet dry
  let o : Options := { templates := some "set", output := some "out", dryRun := true }
  have hdry : Task.ofArguments dry = .ok (.generate o) := by decide +kernel
  have hwet : Task.ofArguments wet = .ok (.generate (o.writing (some "out"))) := by decide +kernel
  have hprinted : (execute tree [] dry).1 = .printed "a\n../b\n" := by decide +kernel
  have hgenerated : generate tree [] (o.settings {}) = .ok files := by decide +kernel
  have hroot : tree.EmptyRoot [] "out" ["out"] := by
    refine ⟨by decide, by decide, fun names hne => ?_⟩
    rw [FileTree.get?_of_ne_nil (by simp), List.lookup_eq_none_iff]
    simp [tree, hne]
  obtain ⟨-, made, hmade, hplan, -, hlisted, hunsafe, -⟩ :=
    execute_writes_listed_iff hdry rfl hwet (rfl : o.projectFile tree [] = .ok {}) rfl hroot hprinted
  obtain rfl : files = made := Except.ok.inj (hgenerated.symm.trans hmade)
  have hescapes : Path.isContained (⟨"../b", "", Bytes.ofText "2"⟩ : OutputFile).path = false := by decide
  refine ⟨hprinted, hplan.symm, hroot, hunsafe.2 ⟨_, List.mem_cons_of_mem _ List.mem_cons_self, hescapes⟩, ?_⟩
  rw [hlisted]
  rintro ⟨hfit, -⟩
  rw [(hfit.each _ (List.mem_cons_of_mem _ List.mem_cons_self)).contained] at hescapes
  cases hescapes

end Stencil.Command
