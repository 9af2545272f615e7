import Mathlib
import Stencil.Proofs.Output.Cleaning
import Stencil.Proofs.Output.Writing
import Stencil.Proofs.Renderer.Template
import Stencil.Proofs.Schema.Identifiers
import Stencil.Proofs.Template.Printing
import Stencil.Proofs.Table
import Stencil.Proofs.Text.Naming
/-!
# Names that sanitizing merges

Sanitizing takes characters out of names, and different names stay different exactly if they are `KeptApart` by other
characters than these. What it comes to shows in a template that writes a class for every model. Its execution is
followed from the loop down to the names (`prints_classLoop`), and its files are those of the sanitized names
(`generate_classSource`). So two models whose names are merged are one class, in one file.
-/

namespace Stencil

open Text

/-- No two of the names are the same but for characters that cannot stand in an identifier. -/
def KeptApart (names : List String) : Prop :=
  names.Pairwise fun s t => ¬ SameBut IsIdentifierChar s.toList t.toList

instance (names : List String) : Decidable (KeptApart names) :=
  inferInstanceAs (Decidable (names.Pairwise fun s t => ¬ SameBut IsIdentifierChar s.toList t.toList))

theorem nodup_map_cleanName_iff {names : List String} : (names.map cleanName).Nodup ↔ KeptApart names := by
  rw [List.Nodup, List.pairwise_map, KeptApart]
  simp only [ne_eq, cleanName_eq_cleanName_iff]

theorem Context.map_name_sanitized (c : Context) :
    c.sanitized.models.map Model.name = (c.models.map Model.name).map cleanName := by
  simp only [sanitized, Model.sanitized, List.map_map, Function.comp_def]

/-- The names of sanitized models have only characters of identifiers. -/
theorem Context.isIdentifierChar_of_mem_sanitized (c : Context) :
    ∀ name ∈ c.sanitized.models.map Model.name, ∀ ch ∈ name.toList, IsIdentifierChar ch := by
  rw [c.map_name_sanitized, List.forall_mem_map]
  exact fun name _ => (keeps_cleanName name).1

theorem Model.localNames_sanitized (m : Model) : m.sanitized.localNames = m.localNames.map cleanName := by
  simp only [localNames, sanitized, Property.sanitized, List.map_map, Function.comp_def]

/-! ## A class for every model -/

/-- A template that writes a class for every model, into a file with the name of the class. -/
def classTemplate : String :=
  "\x7b\x7b#each Models\x7d\x7d" ++ "<<levo filename:\x7b\x7bName\x7d\x7d.java>>" ++
    "class \x7b\x7bName\x7d\x7d;" ++ "<<levo>>" ++ "\x7b\x7b/each\x7d\x7d"

/-- The template as a source. -/
def classSource (directory : String) : Source :=
  ⟨"classes.lt", directory, formatVersion, .template classTemplate, 0⟩

/-- The block of a class. -/
def classBlock (name : String) : WrittenBlock := ⟨name ++ ".java", none, "class " ++ name ++ ";"⟩

/-- The file of a class. -/
def classFile (directory name : String) : OutputFile :=
  ⟨name ++ ".java", directory, Bytes.ofText ("class " ++ name ++ ";")⟩

namespace Template

/-- Prints the name of a model. -/
def nameElement : Element := .value ⟨.reference "Name" (.data [.name "Name"]), [], []⟩ false

/-- What stands in the loop of the template. -/
def classElements : List Element :=
  [.text Block.opening, nameElement, .text (".java".toList ++ Block.headerEnd ++ "class ".toList), nameElement,
    .text (";".toList ++ Block.closing)]

/-- What the template is compiled to. -/
def classLoop : List Element :=
  [.block ⟨.word "each", [.reference "Models" (.data [.name "Models"])], []⟩ [] false classElements none]

theorem compile?_classTemplate : compile? classTemplate = some classLoop := by
  -- `cbv` states equations about characters on its way that Mathlib has under the same names; hence the import.
  cbv

variable {env : Env} {c : Context}

theorem member_models (c : Context) : stepDown (some c.toJson) "Models" =
    .ok (some (.array (c.models.map Model.toJson))) := by
  simp [stepDown, Context.toJson, Json.ofEntries, Table.ofList, Table.get?_insert]

theorem member_name (m : Model) : stepDown (some m.toJson) "Name" = .ok (some (.text m.name)) := by
  simp [stepDown, Model.toJson, Json.ofEntries, Table.ofList, Table.get?_insert]

theorem value_models (c : Context) : Reference.value c.toJson [{}] (.data [.name "Models"]) =
    .ok ⟨some (.array (c.models.map Model.toJson)), some ["Models"]⟩ := by
  refine value_member rfl (by simp) ?_
  simp only [List.nil_append, walkDown, member_models]

/-- The frame of the round for the model at a position. -/
def modelFrame (m : Model) (i n : Nat) : Frame :=
  loopFrame [] ⟨some m.toJson, some ["Models", toString i]⟩ (.number (.int i)) i n []

theorem value_name {m : Model} {i : Nat} (hm : c.models[i]? = some m) (hi : i ≤ Decimal.maxWord) (n : Nat) :
    Reference.value c.toJson [modelFrame m i n, {}] (.data [.name "Name"]) =
      .ok ⟨some (.text m.name), some ["Models", toString i, "Name"]⟩ := by
  have hitem : stepDown (some (.array (c.models.map Model.toJson))) (toString i) = .ok (some m.toJson) := by
    simp only [stepDown, position?_toString hi, List.getElem?_map, hm, Option.map_some]
  refine value_member (f := modelFrame m i n) rfl (by simp [modelFrame, loopFrame, loopNames]) ?_
  simp only [modelFrame, loopFrame, Located.frame, List.cons_append, List.nil_append, walkDown, member_models, hitem,
    member_name]

theorem prints_classElements {m : Model} {i : Nat} (h : env.data = c.toJson) (hm : c.models[i]? = some m)
    (hi : i ≤ Decimal.maxWord) (n depth : Nat) :
    Prints (executeAll env (depth + 3) classElements) [modelFrame m i n, {}] (classBlock m.name).text.toList := by
  have hvalue : Reference.value env.data [modelFrame m i n, {}] (.data [.name "Name"]) =
      .ok ⟨some (.text m.name), some ["Models", toString i, "Name"]⟩ := by
    rw [h]
    exact value_name hm hi n
  have hname : Prints (execute env (depth + 2) nameElement) [modelFrame m i n, {}] m.name.toList :=
    prints_reference hvalue (by decide) depth false
  have htext (cs : List Char) : Prints (execute env (depth + 2) (.text cs)) [modelFrame m i n, {}] cs :=
    prints_text (depth + 1) cs
  have hheader : (classBlock m.name).header = m.name ++ ".java" := rfl
  have hblock : (classBlock m.name).text.toList = [Block.opening, m.name.toList,
      ".java".toList ++ Block.headerEnd ++ "class ".toList, m.name.toList, ";".toList ++ Block.closing].flatten := by
    rw [WrittenBlock.toList_text, hheader, classBlock, String.toList_append, String.toList_append,
      String.toList_append]
    simp only [List.flatten_cons, List.flatten_nil, List.append_assoc]
    rw [List.append_nil]
  rw [hblock]
  exact prints_executeAll (.cons (htext _) (.cons hname (.cons (htext _) (.cons hname (.cons (htext _) .nil)))))

theorem prints_classLoop (h : env.data = c.toJson) (hlength : c.models.length ≤ 2 ^ 64) (depth : Nat) :
    Prints (executeAll env (depth + 8) classLoop) [{}] (c.models.flatMap fun m => (classBlock m.name).text.toList) := by
  have hmodels : Reference.value env.data [{}] (.data [.name "Models"]) =
      .ok ⟨some (.array (c.models.map Model.toJson)), some ["Models"]⟩ := by
    rw [h]
    exact value_models c
  have hrounds : List.Forall₂ (fun f cs => Prints (executeAll env (depth + 3) classElements) [f, {}] cs)
      (loopFrames [] ⟨some (.array (c.models.map Model.toJson)), some ["Models"]⟩)
      (c.models.map fun m => (classBlock m.name).text.toList) := by
    rw [List.forall₂_iff_get]
    refine ⟨by simp [loopFrames, Located.get], fun i hi hi' => ?_⟩
    rw [List.length_map] at hi'
    have hword : Decimal.maxWord = 2 ^ 64 - 1 := by decide
    have hround := prints_classElements h (List.getElem?_eq_getElem hi') (by omega) c.models.length depth
    simpa [loopFrames, Located.get, Located.part, modelFrame] using hround
  have hloop := prints_each (gives_reference hmodels (depth + 3) "Models") hrounds false
  have hall := prints_executeAll (.cons hloop .nil)
  rwa [List.flatten_cons, List.flatten_nil, List.append_nil, ← List.flatMap_def] at hall

end Template

/-! ## The files of the classes -/

/-- Around the name of a class there is nothing in its body but the keyword and the end. -/
theorem not_mem_classBody {name : String} {d : Char} (h : ∀ c ∈ name.toList, IsIdentifierChar c)
    (hd : ¬ IsIdentifierChar d) (haround : d ∉ "class ;".toList) : d ∉ ("class " ++ name ++ ";").toList := by
  have hparts : "class ;".toList = "class ".toList ++ ";".toList := by rw [← String.toList_append]; rfl
  have hname : d ∉ name.toList := fun hc => hd (h d hc)
  rw [hparts, List.mem_append, not_or] at haround
  simp only [String.toList_append, List.mem_append, hname, haround.1, haround.2, or_self, not_false_eq_true]

theorem plain_classBlock {name : String} (h : ∀ c ∈ name.toList, IsIdentifierChar c) : (classBlock name).Plain := by
  have hfile : ∀ c ∈ (name ++ ".java").toList, IsPackageChar c := by
    rw [String.toList_append, List.forall_mem_append]
    exact ⟨fun c hc => .inl (h c hc), by simp [IsPackageChar, IsIdentifierChar]⟩
  have hbody : '<' ∉ (classBlock name).body.toList := not_mem_classBody h (by decide) (by decide)
  exact {
    name := {
      ne_empty := by simp [classBlock]
      no_line_end := fun hc => absurd (hfile _ hc) (by decide)
      no_end := fun hc => absurd (hfile '>' (hc.subset (by decide))) (by decide)
      last := fun hc => absurd (hfile _ (List.mem_of_getLast? hc)) (by decide) }
    name_field := fun hc => absurd (hfile ' ' (hc.subset (by decide))) (by decide)
    directory := by simp [classBlock]
    body := fun hc => hbody (hc.subset (by decide)) }

theorem file_classBlock {name : String} (h : ∀ c ∈ name.toList, IsIdentifierChar c) (directory : String) :
    (classBlock name).file directory = classFile directory name := by
  have hmark : '!' ∉ ("class " ++ name ++ ";").toList := not_mem_classBody h (by decide) (by decide)
  have hlast : ("class " ++ name ++ ";").toList.getLast? = some ';' := by
    rw [String.toList_append]
    exact List.getLast?_concat
  have hclean : Block.cleanBody ("class " ++ name ++ ";").toList = ("class " ++ name ++ ";").toList :=
    Block.cleanBody_of_not_mem hmark (by simp [Block.isBodyBlank]) (by rw [hlast]; simp [Block.isBodyBlank])
  simp only [WrittenBlock.file, classBlock, classFile, hclean, String.ofList_toList, Option.getD_none]

theorem extractFiles_classes {names : List String} (h : ∀ name ∈ names, ∀ c ∈ name.toList, IsIdentifierChar c)
    (directory : String) :
    extractFiles (String.ofList (names.flatMap fun name => (classBlock name).text.toList)) directory =
      names.map (classFile directory) := by
  rw [extractFiles, String.toList_ofList]
  induction names with
  | nil => exact extractChars_of_not_infix (by decide) directory
  | cons name names ih =>
    rw [List.forall_mem_cons] at h
    have hfiller : ¬ Block.opening <:+: [] := by decide
    have hfirst := (plain_classBlock h.1).extractChars_text hfiller directory
    rw [List.flatMap_cons, ← List.nil_append (classBlock name).text.toList, hfirst, ih h.2, file_classBlock h.1,
      List.map_cons]

/-- Whatever was done with a renderer before, the template gives one file for each model. -/
theorem generate_classSource (c : Context) (hlength : c.models.length ≤ 2 ^ 64) (t : TemplateRenderer)
    (directory : String) :
    (Renderer.generate (classSource directory) c (Renderer.parse (classSource directory) t).2).1 =
      .ok ((c.sanitized.models.map Model.name).map (classFile directory)) := by
  have hentry : TemplateRenderer.learned? (classSource directory) = some Template.classLoop := by
    rw [TemplateRenderer.learned?, if_pos (by rfl)]
    exact Template.compile?_classTemplate
  have hlength : c.sanitized.models.length ≤ 2 ^ 64 := by rwa [Context.sanitized, List.length_map]
  have hget := TemplateRenderer.get?_learn_self hentry t
  have hrun (env : Template.Env) (hdata : env.data = c.sanitized.toJson) :=
    Template.run_of_prints (Template.prints_classLoop hdata hlength 3992)
  rw [(TemplateRenderer.parse_eq _ t t).2, Renderer.generate]
  simp only [Renderer.render, TemplateRenderer.render, hget, hrun]
  rw [← extractFiles_classes c.isIdentifierChar_of_mem_sanitized, List.flatMap_map]
  rfl

theorem Path.join_inj {root next next' : String} (hnext : isAbsolute next = false) (hnext' : isAbsolute next' = false) :
    join root next = join root next' ↔ next = next' := by
  simp only [join, hnext, hnext', Bool.false_eq_true, if_false]
  split <;> simp

theorem isAbsolute_classFile {name : String} (h : ∀ c ∈ name.toList, IsIdentifierChar c) :
    Path.isAbsolute (name ++ ".java") = false := by
  cases hs : name.toList with
  | nil => simp [Path.isAbsolute, hs]
  | cons c cs =>
    have hc : c ≠ '/' := fun hslash => absurd (h c (by simp [hs])) (by simp only [hslash]; decide)
    simpa [Path.isAbsolute, hs] using hc

theorem path_classFile_inj (directory : String) {name name' : String} (h : ∀ c ∈ name.toList, IsIdentifierChar c)
    (h' : ∀ c ∈ name'.toList, IsIdentifierChar c) :
    (classFile directory name).path = (classFile directory name').path ↔ name = name' := by
  have hpath (s : String) : (classFile directory s).path = relativePath (s ++ ".java") directory := rfl
  rw [hpath, hpath, relativePath, relativePath]
  by_cases hroot : directory.isEmpty = true
  · simp [hroot]
  · rw [if_neg hroot, if_neg hroot, Path.join_inj (isAbsolute_classFile h) (isAbsolute_classFile h')]
    simp

/-- Names stay different in a context exactly if they are kept apart by more than the characters that are taken out:
those of its models, those of the properties of each model, and so the files of the classes, unless there are more
models than positions in a list. -/
theorem nodup_sanitized_iff_keptApart (c : Context) (t : TemplateRenderer) (directory : String) :
    ((c.sanitized.models.map Model.name).Nodup ↔ KeptApart (c.models.map Model.name)) ∧
    List.Forall₂ (fun m m' => m'.Unambiguous ↔ KeptApart m.localNames) c.models c.sanitized.models ∧
    (c.models.length ≤ 2 ^ 64 →
      let files := (c.sanitized.models.map Model.name).map (classFile directory)
      (Renderer.generate (classSource directory) c (Renderer.parse (classSource directory) t).2).1 = .ok files ∧
        ((files.map OutputFile.path).Nodup ↔ KeptApart (c.models.map Model.name))) := by
  have hnames : (c.sanitized.models.map Model.name).Nodup ↔ KeptApart (c.models.map Model.name) := by
    rw [c.map_name_sanitized]
    exact nodup_map_cleanName_iff
  have hlocals : List.Forall₂ (fun m m' => m'.Unambiguous ↔ KeptApart m.localNames) c.models
      (c.models.map Model.sanitized) := by
    rw [List.forall₂_map_right_iff, List.forall₂_same]
    intro m _
    rw [Model.Unambiguous, m.localNames_sanitized]
    exact nodup_map_cleanName_iff
  have hinj : ∀ s ∈ c.sanitized.models.map Model.name, ∀ s' ∈ c.sanitized.models.map Model.name,
      (classFile directory s).path = (classFile directory s').path → s = s' := fun s hs s' hs' =>
    (path_classFile_inj directory (c.isIdentifierChar_of_mem_sanitized s hs)
      (c.isIdentifierChar_of_mem_sanitized s' hs')).1
  refine ⟨hnames, hlocals, fun hlength => ⟨generate_classSource c hlength t directory, ?_⟩⟩
  rw [← hnames, List.map_map]
  exact ⟨List.Nodup.of_map _, fun h => h.map_on hinj⟩

/-- Two models in different files, the first one with two properties that are merged. -/
theorem nodup_sanitized_iff_keptApart_order :
    let c := Context.ofProject "Shop" "shop"
      [⟨"Line Item", none, [⟨"unit price", "unit price", "double", false⟩, ⟨"unit-price", "unit-price", "int", false⟩]⟩,
       ⟨"Order", none, []⟩] []
    c.models.length ≤ 2 ^ 64 ∧ KeptApart (c.models.map Model.name) ∧ (c.sanitized.models.map Model.name).Nodup ∧
      (∀ m ∈ c.models, m.Unambiguous) ∧ ¬ (∀ m ∈ c.sanitized.models, m.Unambiguous) ∧
      (Renderer.generate (classSource "src") c (Renderer.parse (classSource "src") ({} : TemplateRenderer)).2).1 =
        .ok [⟨"LineItem.java", "src", Bytes.ofText "class LineItem;"⟩,
          ⟨"Order.java", "src", Bytes.ofText "class Order;"⟩] := by
  intro c
  have hlength : c.models.length ≤ 2 ^ 64 := by decide
  have hapart : KeptApart (c.models.map Model.name) := by decide
  have hlocals : ¬ KeptApart (Model.localNames ⟨"Line Item", none,
      [⟨"unit price", "unit price", "double", false⟩, ⟨"unit-price", "unit-price", "int", false⟩]⟩) := by decide
  obtain ⟨hnames, hmodels, hclasses⟩ := nodup_sanitized_iff_keptApart c {} "src"
  refine ⟨hlength, hapart, hnames.2 hapart, by decide, ?_, ?_⟩
  · cases hmodels with
    | cons hfirst _ => exact fun h => hlocals (hfirst.1 (h _ List.mem_cons_self))
  · rw [(hclasses hlength).1]
    decide

/-- Two models with different names become one class, and are written to one file. -/
theorem nodup_not_sanitized :
    let c := Context.ofProject "Shop" "shop"
      [⟨"Line Item", none, [⟨"unit price", "unit price", "double", false⟩, ⟨"unit-price", "unit-price", "int", false⟩]⟩,
       ⟨"LineItem", none, []⟩] []
    (c.models.map Model.name).Nodup ∧ (∀ m ∈ c.models, m.Unambiguous) ∧
      ¬ (c.sanitized.models.map Model.name).Nodup ∧ ¬ (∀ m ∈ c.sanitized.models, m.Unambiguous) ∧
      (Renderer.generate (classSource "src") c (Renderer.parse (classSource "src") ({} : TemplateRenderer)).2).1 =
        .ok [classFile "src" "LineItem", classFile "src" "LineItem"] := by
  intro c
  have hfiles := generate_classSource c (by decide) {} "src"
  refine ⟨by decide, by decide, by decide, by decide, ?_⟩
  rw [hfiles]
  decide

end Stencil
