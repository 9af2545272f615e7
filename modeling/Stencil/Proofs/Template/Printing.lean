import Mathlib.Data.List.Forall2
import Stencil.Template.Execution
/-!
# What templates print

Execution goes from machine to machine, and most of what a machine holds does not matter for what is printed.
`Gives` says of a part that it has a value and changes nothing, `Prints` that it appends a text: on every machine that
stands at the frames, whatever was written before. Parts that print one after another print one text, so a template is
taken apart element by element, and a loop round by round (`prints_each`).
-/

namespace Stencil.Template

open Json

/-- On every machine that stands at the frames the part gives the value and changes nothing. -/
def Gives {α : Type} (part : Exec α) (frames : List Frame) (v : α) : Prop :=
  ∀ m : Machine, m.frames = frames → part.run m = (.ok v, m)

/-- On every machine that stands at the frames and does not indent, the part ends without a fault. It appends the text,
and the machine stands where it stood, with the types that it had. -/
def Prints (part : Exec Unit) (frames : List Frame) (cs : List Char) : Prop :=
  ∀ m : Machine, m.frames = frames → m.indent = [] → ∃ m', part.run m = (.ok (), m') ∧ m'.frames = frames ∧
    m'.indent = [] ∧ m'.types = m.types ∧ m'.written = cs.reverse ++ m.written

variable {α β : Type} {frames : List Frame} {cs ds : List Char} {env : Env} {l : Located}

/-! ## Parts one after another -/

theorem run_bind_of_ok {part : Exec α} {next : α → Exec β} {m m' : Machine} {v : α}
    (h : part.run m = (.ok v, m')) : (part >>= next).run m = (next v).run m' := by
  rw [ExceptT.run_bind]
  change StateT.bind _ _ m = _
  simp only [StateT.bind, h]
  rfl

theorem run_get_bind (next : Machine → Exec β) (m : Machine) :
    ((get : Exec Machine) >>= next).run m = (next m).run m := rfl

theorem run_set_bind (m' : Machine) (next : PUnit → Exec β) (m : Machine) :
    ((set m' : Exec PUnit) >>= next).run m = (next ⟨⟩).run m' := rfl

theorem run_modify (f : Machine → Machine) (m : Machine) : (modify f : Exec Unit).run m = (.ok (), f m) := rfl

theorem gives_pure (v : α) : Gives (pure v) frames v := fun _ _ => rfl

theorem Gives.bind {part : Exec α} {next : α → Exec β} {v : α} {w : β} (h : Gives part frames v)
    (hnext : Gives (next v) frames w) : Gives (part >>= next) frames w := by
  intro m hm
  rw [run_bind_of_ok (h m hm)]
  exact hnext m hm

theorem gives_mapM {f : α → Exec β} {xs : List α} {ys : List β}
    (h : List.Forall₂ (fun x y => Gives (f x) frames y) xs ys) : Gives (xs.mapM f) frames ys := by
  induction h with
  | nil => exact gives_pure []
  | cons hx _ ih =>
    rw [List.mapM_cons]
    exact hx.bind (ih.bind (gives_pure _))

theorem Prints.nothing : Prints (pure ()) frames [] := fun m hm hi => ⟨m, rfl, hm, hi, rfl, rfl⟩

theorem Prints.of_gives {part : Exec α} {next : α → Exec Unit} {v : α} (h : Gives part frames v)
    (hnext : Prints (next v) frames cs) : Prints (part >>= next) frames cs := by
  intro m hm hi
  rw [run_bind_of_ok (h m hm)]
  exact hnext m hm hi

theorem Prints.append {part next : Exec Unit} (h : Prints part frames cs) (hnext : Prints next frames ds) :
    Prints (part >>= fun _ => next) frames (cs ++ ds) := by
  intro m hm hi
  obtain ⟨m₁, hrun₁, hm₁, hi₁, ht₁, hw₁⟩ := h m hm hi
  obtain ⟨m₂, hrun₂, hm₂, hi₂, ht₂, hw₂⟩ := hnext m₁ hm₁ hi₁
  refine ⟨m₂, ?_, hm₂, hi₂, ht₂.trans ht₁, ?_⟩
  · rw [run_bind_of_ok hrun₁, hrun₂]
  · rw [hw₂, hw₁, List.reverse_append, List.append_assoc]

theorem prints_forM {f : α → Exec Unit} {xs : List α} {css : List (List Char)}
    (h : List.Forall₂ (fun x cs => Prints (f x) frames cs) xs css) : Prints (xs.forM f) frames css.flatten := by
  induction h with
  | nil => exact .nothing
  | cons hx _ ih => exact hx.append ih

/-! ## Writing -/

theorem indentLines_nil (cs : List Char) : indentLines [] cs = cs := by
  fun_induction indentLines [] cs <;> simp_all

theorem prints_write (cs : List Char) : Prints (write cs) frames cs := by
  intro m hm hi
  refine ⟨m.write cs, rfl, ?_⟩
  unfold Machine.write
  split
  · next hempty => simp [List.isEmpty_iff.1 hempty, hm, hi]
  · simp [hm, hi, indentLines_nil]

theorem Prints.withIndent {part : Exec Unit} (h : Prints part frames cs) (starts : Machine → Bool) :
    Prints (withIndent starts part) frames cs := by
  intro m hm hi
  obtain ⟨m', hrun, hm', hi', ht', hw'⟩ := h { m with indentNext := starts m, produced := false } hm hi
  refine ⟨if m'.produced then { m' with indentNext := m'.lineEnded }
    else { m' with indentNext := m.indentNext, produced := m.produced }, ?_, ?_⟩
  · rw [Template.withIndent, run_get_bind, run_set_bind, run_bind_of_ok hrun, run_modify]
  · split <;> exact ⟨hm', hi', ht', hw'⟩

theorem Prints.withFrames {part : Exec Unit} {inner : List Frame} (h : Prints part inner cs) :
    Prints (withFrames inner part) frames cs := by
  intro m hm hi
  obtain ⟨m', hrun, -, hi', ht', hw'⟩ := h { m with frames := inner } rfl hi
  refine ⟨{ m' with frames := m.frames }, ?_, hm, hi', ht', hw'⟩
  rw [Template.withFrames, run_get_bind, run_set_bind, run_bind_of_ok hrun, run_modify]

/-! ## Expressions -/

theorem gives_reference {target : Reference} (h : target.value env.data frames = .ok l) (depth : Nat)
    (spelling : String) : Gives (evaluate env (depth + 1) (.reference spelling target)) frames l := by
  rintro m rfl
  rw [evaluate, run_get_bind, h]
  rfl

theorem gives_evaluateAll {params : List Expr} {ls : List Located} {depth : Nat}
    (h : List.Forall₂ (fun e l => Gives (evaluate env depth e) frames l) params ls) :
    Gives (evaluateAll env (depth + 1) params []) frames ⟨ls, Table.empty⟩ := by
  rw [evaluateAll]
  exact (gives_mapM h).bind (gives_pure _)

/-! ## Elements -/

theorem prints_executeAll {elements : List Element} {css : List (List Char)} {depth : Nat}
    (h : List.Forall₂ (fun e cs => Prints (execute env depth e) frames cs) elements css) :
    Prints (executeAll env (depth + 1) elements) frames css.flatten := by
  rw [executeAll]
  exact prints_forM h

theorem prints_text (depth : Nat) (cs : List Char) : Prints (execute env (depth + 1) (.text cs)) frames cs := by
  rw [execute]
  exact prints_write cs

/-- A reference by itself prints its value, unless it is spelled like a helper. -/
theorem prints_reference {target : Reference} {spelling : String} (h : target.value env.data frames = .ok l)
    (hplain : isHelper spelling = false) (depth : Nat) (opensLine : Bool) :
    Prints (execute env (depth + 2) (.value ⟨.reference spelling target, [], []⟩ opensLine)) frames l.get.printed := by
  have hname : Gives (nameOf env (depth + 1) (.reference spelling target)) frames spelling := by
    rw [nameOf]
    exact gives_pure spelling
  have hvalue : Prints (evaluate env (depth + 1) (.reference spelling target) >>= fun l => write l.get.printed) frames
      l.get.printed :=
    .of_gives (gives_reference h depth spelling) (prints_write _)
  rw [execute, if_pos (by rfl)]
  refine .of_gives hname ?_
  rw [hplain]
  exact hvalue

/-- The body of a block is executed on the frames where it stands. -/
theorem prints_runBody {body : List Element} {depth : Nat} (h : Prints (executeAll env depth body) frames cs)
    (names : List String) (otherwise : Option (List Element)) :
    Prints (runBody env (depth + 1) ⟨body, names, otherwise⟩ true) frames cs := by
  intro m hm hi
  rw [runBody]
  exact h { m with current := none } hm hi

theorem prints_rounds {body : List Element} {names : List String} {css : List (List Char)} {depth : Nat}
    (hbody : List.Forall₂ (fun f cs => Prints (executeAll env depth body) (f :: frames) cs) (loopFrames names l) css) :
    Prints (runBlock env (depth + 2) .each ⟨[l], Table.empty⟩ (some ⟨body, names, none⟩)) frames css.flatten := by
  have hparam : Gives (firstParam .each ⟨[l], Table.empty⟩) frames l := gives_pure l
  rw [runBlock]
  refine .of_gives hparam ?_
  rintro m rfl hi
  rw [run_get_bind]
  dsimp only
  by_cases hempty : loopFrames names l = []
  · rw [hempty, List.forall₂_nil_left_iff] at hbody
    rw [hempty, if_pos (by rfl), runBody, hbody]
    exact Prints.nothing m rfl hi
  · rw [if_neg (by simpa using hempty)]
    exact prints_forM (hbody.imp fun f cs hf => .withFrames (prints_runBody hf names none)) m rfl hi

/-- A loop prints what its body prints in each round, one round after another. -/
theorem prints_each {e : Expr} {names : List String} {body : List Element} {css : List (List Char)} {depth : Nat}
    (h : Gives (evaluate env (depth + 1) e) frames l)
    (hbody : List.Forall₂ (fun f cs => Prints (executeAll env depth body) (f :: frames) cs) (loopFrames names l) css)
    (opensLine : Bool) :
    Prints (execute env (depth + 4) (.block ⟨.word "each", [e], []⟩ names opensLine body none)) frames css.flatten := by
  have hname : Gives (nameOf env (depth + 2) (.word "each")) frames "each" := by
    rw [nameOf]
    exact gives_pure "each"
  have hargs : Gives (evaluateAll env (depth + 2) [e] []) frames ⟨[l], Table.empty⟩ :=
    gives_evaluateAll (.cons h .nil)
  have hcondition : conditions.lookup "each" = none := by decide
  have hvalue : valueHelpers.lookup "each" = none := by decide
  have hblock : blockHelpers.lookup "each" = some .each := by decide
  rw [execute, callHelper]
  refine .of_gives hname (.of_gives hargs (.withIndent ?_ _))
  rw [hcondition, hvalue, hblock]
  exact prints_rounds hbody

/-- A template that prints a text on the data gives that text, and leaves the types alone. -/
theorem run_of_prints {elements : List Element} (h : Prints (executeAll env maxDepth elements) [{}] cs) (name : String)
    (types : CustomTypes) : env.run name elements types = (.ok (String.ofList cs), types) := by
  obtain ⟨m', hrun, -, -, ht, hw⟩ := h { types, current := some name } rfl rfl
  rw [Env.run, hrun]
  simp only [ht, hw, List.append_nil, List.reverse_reverse]

/-! ## Names and positions -/

/-- A name leads down from the place of the innermost frame, if no frame gives it another meaning. -/
theorem value_member {data v : Json} {f : Frame} {frames : List Frame} {name : String} (hbase : f.base = none)
    (hnames : ∀ g ∈ f :: frames, g.names = []) (hwalk : walkDown (some data) (f.place ++ [name]) = .ok (some v)) :
    Reference.value data (f :: frames) (.data [.name name]) = .ok ⟨some v, some (f.place ++ [name])⟩ := by
  have hfree : binding? (f :: frames) name = none := by
    rw [binding?, List.findSome?_eq_none_iff]
    intro g hg
    rw [hnames g hg]
    rfl
  have hlook : lookDown data .data (f.place ++ [name]) = .ok ⟨some v, some (f.place ++ [name])⟩ := by
    rw [lookDown, hwalk]
    rfl
  simp [Reference.value, resolve, leadingBinding?, countUps, hfree, lookFrom, hbase, namesOf, hlook]

/-- A position is spelled with its digits, unless it is too great for any list. -/
theorem position?_toString {i : Nat} (h : i ≤ Decimal.maxWord) : position? (toString i) = some i := by
  have hdigits : (Nat.toDigits 10 i).all Char.isDigit = true :=
    List.all_eq_true.2 fun c hc => Nat.isDigit_of_mem_toDigits (by decide) (by decide) hc
  have hsign : (Nat.toDigits 10 i).head? ≠ some '+' := by
    intro hplus
    exact absurd (Nat.isDigit_of_mem_toDigits (by decide) (by decide) (List.mem_of_head? hplus)) (by decide)
  have hvalue : Json.ofDigits ((Nat.toDigits 10 i).map fun c => c.toNat - 48) = i := by
    rw [Json.ofDigits, List.foldl_map]
    simpa only [Nat.ofDigitChars, Nat.mul_comm, Char.reduceToNat] using Nat.ofDigitChars_ten_toDigits (n := i)
  simp [position?, hsign, hdigits, hvalue, h]

end Stencil.Template
