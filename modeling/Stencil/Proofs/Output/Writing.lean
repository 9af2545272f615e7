import Stencil.Proofs.Output.Scan
/-!
# Blocks come back as they were written

`written` puts blocks into a text, with anything in between that holds no opening mark.
`extractFiles_written` says that the files of that text are the blocks, whatever else stands in it:
headers in bodies, closing marks and ends of headers between blocks, beginnings of marks anywhere.

The marks that a block is made of could be found too early only across a seam. The opening mark, the
mark for a directory and the closing mark have no border, so they cannot begin in what stands before
them. The end of a header has one, which is why a name or a directory must not end in `>`.
-/

namespace Stencil

open Text

/-- A block to be written. -/
structure WrittenBlock where
  name : String
  directory : Option String
  body : String
deriving Repr, DecidableEq

namespace WrittenBlock

open Block

/-- What stands between the opening mark and the end of the header. -/
def header (b : WrittenBlock) : String :=
  match b.directory with
  | some directory => b.name ++ " directory:" ++ directory
  | none => b.name

/-- The text of the block. -/
def text (b : WrittenBlock) : String :=
  "<<levo filename:" ++ b.header ++ ">>" ++ b.body ++ "<<levo>>"

/-- The file that the block stands for. -/
def file (default : String) (b : WrittenBlock) : OutputFile :=
  ⟨b.name, b.directory.getD default, Bytes.ofText (String.ofList (cleanBody b.body.toList))⟩

/-- A text that can end a header: it is not empty, has no line end and no end of a header, and lets
none begin in it. -/
structure EndsHeader (s : String) : Prop where
  ne_empty : s ≠ ""
  no_line_end : '\n' ∉ s.toList
  no_end : ¬ headerEnd <:+: s.toList
  last : s.toList.getLast? ≠ some '>'

/-- A block that can be told apart in a text. -/
structure Plain (b : WrittenBlock) : Prop where
  name : EndsHeader b.name
  name_field : ¬ directoryField <:+: b.name.toList
  directory : ∀ d ∈ b.directory, EndsHeader d
  body : ¬ closing <:+: b.body.toList

instance (s : String) : Decidable (EndsHeader s) :=
  decidable_of_iff
    (s ≠ "" ∧ '\n' ∉ s.toList ∧ ¬ headerEnd <:+: s.toList ∧ s.toList.getLast? ≠ some '>')
    ⟨fun ⟨h1, h2, h3, h4⟩ => ⟨h1, h2, h3, h4⟩, fun ⟨h1, h2, h3, h4⟩ => ⟨h1, h2, h3, h4⟩⟩

instance (b : WrittenBlock) : Decidable b.Plain :=
  decidable_of_iff
    (EndsHeader b.name ∧ ¬ directoryField <:+: b.name.toList ∧ (∀ d ∈ b.directory, EndsHeader d) ∧
      ¬ closing <:+: b.body.toList)
    ⟨fun ⟨h1, h2, h3, h4⟩ => ⟨h1, h2, h3, h4⟩, fun ⟨h1, h2, h3, h4⟩ => ⟨h1, h2, h3, h4⟩⟩

theorem toList_text (b : WrittenBlock) :
    b.text.toList = opening ++ (b.header.toList ++ headerEnd ++ (b.body.toList ++ closing)) := by
  unfold text opening headerEnd closing
  simp only [String.toList_append, List.append_assoc]

theorem toList_header_of_none {b : WrittenBlock} (h : b.directory = none) :
    b.header.toList = b.name.toList := by
  rw [header, h]

theorem toList_header_of_some {b : WrittenBlock} {d : String} (h : b.directory = some d) :
    b.header.toList = b.name.toList ++ directoryField ++ d.toList := by
  unfold header directoryField
  simp only [h, String.toList_append]

theorem unbordered_directoryField : Unbordered directoryField := by decide

theorem unbordered_closing : Unbordered closing := by decide

theorem eq_of_mem_headerEnd {c : Char} (h : c ∈ headerEnd) : c = '>' := by
  simpa [headerEnd] using h

/-- The end of a header is found behind fields that hold none and do not end in its character. -/
theorem firstAt_headerEnd {fields : List Char} (hin : ¬ headerEnd <:+: fields)
    (hlast : fields.getLast? ≠ some '>') (rest : List Char) :
    FirstAt headerEnd (fields ++ headerEnd ++ rest) fields rest := by
  refine firstAt_append hin (fun x y e hx _ => .inl ?_) rest
  by_contra h0
  obtain ⟨p, rfl⟩ := hx
  have hmem : x.getLast h0 ∈ headerEnd := e ▸ List.mem_append_left y (List.getLast_mem h0)
  apply hlast
  rw [List.getLast?_append_of_ne_nil p h0, List.getLast?_eq_some_getLast h0, eq_of_mem_headerEnd hmem]

/-- No end of a header arises where a name, the mark and a directory meet. -/
theorem no_headerEnd_append {name directory : List Char} (hn : ¬ headerEnd <:+: name)
    (hd : ¬ headerEnd <:+: directory) : ¬ headerEnd <:+: name ++ directoryField ++ directory := by
  have hfield : '>' ∉ directoryField := by decide
  have hseam : ∀ x y, headerEnd = x ++ y → x ≠ [] → x <:+ directoryField → y = [] := by
    intro x y e h0 hx
    have hmem : x.head h0 ∈ headerEnd := e ▸ List.mem_append_left y (List.head_mem h0)
    exact absurd (hx.subset (eq_of_mem_headerEnd hmem ▸ List.head_mem h0)) hfield
  intro h
  rw [List.append_assoc] at h
  rcases infix_append_cases h with h | h | ⟨x, y, e, -, hy0, -, hy⟩
  · exact hn h
  · rcases infix_append_cases h with h | h | ⟨x, y, e, hx0, hy0, hx, -⟩
    · exact absurd h (by decide)
    · exact hd h
    · exact hy0 (hseam x y e hx0 hx)
  · -- the part that ends in the mark would begin with its blank
    obtain ⟨c, cs, rfl⟩ := List.exists_cons_of_ne_nil hy0
    have hc : c = '>' := eq_of_mem_headerEnd (e ▸ by simp)
    obtain ⟨z, hz⟩ := hy
    have hblank : c = ' ' := (List.cons.inj hz).1
    exact absurd (hc.symm.trans hblank) (by decide)

namespace Plain

variable {b : WrittenBlock}

theorem header_no_line_end (h : b.Plain) : '\n' ∉ b.header.toList := by
  rcases hd : b.directory with _ | d
  · rw [toList_header_of_none hd]
    exact h.name.no_line_end
  · have hfield : '\n' ∉ directoryField := by decide
    rw [toList_header_of_some hd]
    simpa [hfield] using ⟨h.name.no_line_end, (h.directory d hd).no_line_end⟩

theorem header_no_end (h : b.Plain) : ¬ headerEnd <:+: b.header.toList := by
  rcases hd : b.directory with _ | d
  · rw [toList_header_of_none hd]
    exact h.name.no_end
  · rw [toList_header_of_some hd]
    exact no_headerEnd_append h.name.no_end (h.directory d hd).no_end

theorem header_last (h : b.Plain) : b.header.toList.getLast? ≠ some '>' := by
  rcases hd : b.directory with _ | d
  · rw [toList_header_of_none hd]
    exact h.name.last
  · have h0 : d.toList ≠ [] := by simpa using (h.directory d hd).ne_empty
    rw [toList_header_of_some hd, List.getLast?_append_of_ne_nil _ h0]
    exact (h.directory d hd).last

/-- The header of the block says its name and its directory. -/
theorem ofFields_header (h : b.Plain) :
    Header.ofFields b.header.toList = ⟨b.name.toList, b.directory.map String.toList⟩ := by
  apply says_iff.1
  rcases hd : b.directory with _ | d
  · rw [toList_header_of_none hd]
    exact .nameOnly h.name_field
  · rw [toList_header_of_some hd]
    exact .withDirectory (firstAt_of_unbordered unbordered_directoryField h.name_field d.toList)

/-- The first block of a text is the one that was written first. -/
theorem next?_text (h : b.Plain) {filler : List Char} (hf : ¬ opening <:+: filler) (rest : List Char) :
    next? (filler ++ b.text.toList ++ rest) =
      some (some (⟨b.name.toList, b.directory.map String.toList⟩, b.body.toList), rest) := by
  have hClose := firstAt_of_unbordered unbordered_closing h.body rest
  have hEnd := firstAt_headerEnd h.header_no_end h.header_last (b.body.toList ++ closing ++ rest)
  have hOpen := firstAt_of_unbordered unbordered_opening hf
    (b.header.toList ++ headerEnd ++ (b.body.toList ++ closing ++ rest))
  have hRead := readHeader_eq_some_iff.2 ⟨_, hEnd, h.header_no_line_end, h.ofFields_header⟩
  have hText : filler ++ b.text.toList ++ rest =
      filler ++ opening ++ (b.header.toList ++ headerEnd ++ (b.body.toList ++ closing ++ rest)) := by
    simp [toList_text]
  simp only [next?, hText, breakOn_eq_some_iff.2 hOpen, hRead, breakOn_eq_some_iff.2 hClose]

theorem toFile?_eq (h : b.Plain) (default : String) :
    toFile? ⟨b.name.toList, b.directory.map String.toList⟩ default b.body.toList =
      some (b.file default) := by
  have hn : b.name.toList ≠ [] := by simpa using h.name.ne_empty
  rcases hd : b.directory with _ | d
  · simp [toFile?, hn, Header.directoryOr, file, hd]
  · have h0 : d.toList ≠ [] := by simpa using (h.directory d hd).ne_empty
    obtain ⟨c, cs, hc⟩ := List.exists_cons_of_ne_nil h0
    have hdir : String.ofList (c :: cs) = d := by rw [← hc, String.ofList_toList]
    simp [toFile?, hn, Header.directoryOr, file, hd, hc, hdir]

end Plain

end WrittenBlock

/-- Blocks in one text, each behind its filler, and what stands behind the last one. -/
def written : List (String × WrittenBlock) → (last : String) → String
  | [], last => last
  | (filler, b) :: blocks, last => filler ++ b.text ++ written blocks last

open Block in
theorem extractChars_of_not_infix {text : List Char} (h : ¬ opening <:+: text) (default : String) :
    extractChars default text = [] := by
  have hn : next? text = none := by simp only [next?, breakOn_eq_none_iff.2 h]
  rw [extractChars_eq, hn]

open Block in
/-- The first block of a text gives its first file. -/
theorem WrittenBlock.Plain.extractChars_text {b : WrittenBlock} (h : b.Plain) {filler : List Char}
    (hf : ¬ opening <:+: filler) (default : String) (rest : List Char) :
    extractChars default (filler ++ b.text.toList ++ rest) = b.file default :: extractChars default rest := by
  rw [extractChars_eq, h.next?_text hf]
  simp only [Option.bind_some, h.toFile?_eq, Option.toList_some, List.singleton_append]

open Block in
/-- The files of the text are the blocks, one file for each, in order. -/
theorem extractFiles_written (blocks : List (String × WrittenBlock)) (last default : String)
    (hplain : ∀ p ∈ blocks, p.2.Plain) (hfiller : ∀ p ∈ blocks, ¬ opening <:+: p.1.toList)
    (hlast : ¬ opening <:+: last.toList) :
    extractFiles (written blocks last) default = blocks.map fun p => p.2.file default := by
  unfold extractFiles
  induction blocks with
  | nil => exact extractChars_of_not_infix hlast default
  | cons p blocks ih =>
    obtain ⟨filler, b⟩ := p
    have hb : b.Plain := hplain (filler, b) List.mem_cons_self
    have hf : ¬ opening <:+: filler.toList := hfiller (filler, b) List.mem_cons_self
    have ih := ih (fun p hp => hplain p (List.mem_cons_of_mem _ hp))
      (fun p hp => hfiller p (List.mem_cons_of_mem _ hp))
    simp only [written, String.toList_append, List.map_cons]
    rw [extractChars_eq, hb.next?_text hf]
    simp only [Option.bind_some, hb.toFile?_eq, Option.toList_some, List.singleton_append, ih]

open Block in
/-- A header in a body, a mark in a directory, and the beginnings and ends of marks around the blocks. -/
theorem extractFiles_written_seams :
    let blocks : List (String × WrittenBlock) :=
      [("<<levo>> >> <<levo filename", ⟨"a>b", none, "<<levo filename:in>>\n<<levo>"⟩),
       ("<", ⟨"c", some "src directory:x", " C"⟩)]
    (∀ p ∈ blocks, p.2.Plain) ∧ (∀ p ∈ blocks, ¬ opening <:+: p.1.toList) ∧
      ¬ opening <:+: "<<levo".toList ∧
      extractFiles (written blocks "<<levo") "out" =
        [⟨"a>b", "out", Bytes.ofText "<<levo filename:in>>\n<<levo>"⟩,
         ⟨"c", "src directory:x", Bytes.ofText "C"⟩] := by
  intro blocks
  have hplain : ∀ p ∈ blocks, p.2.Plain := by decide
  have hfiller : ∀ p ∈ blocks, ¬ opening <:+: p.1.toList := by decide
  have hlast : ¬ opening <:+: "<<levo".toList := by decide
  refine ⟨hplain, hfiller, hlast, ?_⟩
  rw [extractFiles_written blocks "<<levo" "out" hplain hfiller hlast]
  decide

end Stencil
