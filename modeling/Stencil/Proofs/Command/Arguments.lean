import Mathlib.Data.List.Basic
import Stencil.Command.Options
/-!
# A command without its dry run

The flag of a dry run is never the value of a parameter, and is given once at most. So a dry run becomes the command
that writes when the flag is taken from its arguments, wherever it stands among them, and nothing else that they say is
different then (`ofArguments_without_dryRun`).
-/

namespace Stencil.Command

/-! ## Options -/

/-- The options of the command that writes what a dry run lists; the output root may be another one. -/
def Options.writing (o : Options) (output : Option String) : Options := { o with dryRun := false, output }

/-- Whether files are written makes no difference to parameters. -/
theorem Options.add_writing (o : Options) (p : Parameter) (value : String) :
    (o.writing o.output).add p value = (o.add p value).map fun o => o.writing o.output := by
  have hvalue : (o.writing o.output).value? p = o.value? p := by cases p <;> rfl
  have hgive : (o.writing o.output).give value p = (o.give value p).writing (o.give value p).output := by
    cases p <;> rfl
  unfold add
  rw [hvalue, hgive]
  split_ifs <;> rfl

theorem Options.dryRun_of_add {o next : Options} {p : Parameter} {value : String} (h : o.add p value = .ok next) :
    next.dryRun = o.dryRun := by
  unfold add at h
  split_ifs at h
  cases h
  cases p <;> rfl

/-! ## Items -/

namespace Task

theorem ofItems_fault (fault : UsageFault) (o r : Options) (items : List Item) :
    ofItems (some fault) o items ≠ .ok (.generate r) := by
  induction items generalizing o with
  | nil => simp [ofItems]
  | cons item items ih =>
    cases item with
    | parameter p value =>
      simp only [ofItems]
      split
      · simp
      · exact ih _
    | flag f =>
      cases f with
      | help | version => simp [ofItems]
      | verbose => exact ih _
      | dryRun =>
        simp only [ofItems]
        split
        · simp
        · exact ih _

/-- The flag of a dry run counts once at most, and nothing else hangs on it. -/
theorem ofItems_writing {o r : Options} {items : List Item} (h : ofItems none o items = .ok (.generate r)) :
    items.count (.flag .dryRun) + o.dryRun.toNat = r.dryRun.toNat ∧
      ofItems none (o.writing o.output) (items.filter (· != .flag .dryRun)) =
        .ok (.generate (r.writing r.output)) := by
  induction items generalizing o with
  | nil =>
    cases h
    simp [ofItems]
  | cons item items ih =>
    cases item with
    | parameter p value =>
      rw [List.count_cons_of_ne (by simp), List.filter_cons_of_pos (by simp)]
      simp only [ofItems, o.add_writing] at h ⊢
      cases hadd : o.add p value with
      | error fault =>
        rw [hadd] at h
        cases h
      | ok next =>
        rw [hadd] at h
        rw [← Options.dryRun_of_add hadd]
        exact ih h
    | flag f =>
      cases f with
      | help | version => cases h
      | verbose =>
        rw [List.count_cons_of_ne (by simp), List.filter_cons_of_pos (by simp)]
        exact ih h
      | dryRun =>
        simp only [ofItems] at h
        split at h
        · cases h
        · next hnone =>
          obtain ⟨hcount, hitems⟩ := ih h
          rw [List.count_cons_self, List.filter_cons_of_neg (by simp), (Bool.not_eq_true _).mp hnone]
          exact ⟨hcount, hitems⟩

end Task

/-! ## Arguments -/

theorem readItems_of_complete {argument : String} (rest : List String) {items : List Item}
    (hend : ¬ (argument == optionsEnd) = true) (hread : readArgument argument = (items, .complete)) :
    readItems (argument :: rest) = (items ++ (readItems rest).1, (readItems rest).2) := by
  simp [readItems, hend, hread]

theorem readItems_of_wants {argument value : String} (rest : List String) {items : List Item} {p : Parameter}
    (hend : ¬ (argument == optionsEnd) = true) (hread : readArgument argument = (items, .wants p))
    (hvalue : ¬ isOption value = true) :
    readItems (argument :: value :: rest) =
      (items ++ .parameter p value :: (readItems rest).1, (readItems rest).2) := by
  simp [readItems, hend, hread, hvalue]

/-- The flag of a dry run. -/
def dryRunArgument : String := "--dry-run"

/-- The flag of a dry run is read as it is and no value of a parameter, unless there is something wrong. -/
theorem readItems_dryRun (before after : List String) :
    (readItems (before ++ dryRunArgument :: after)).2 ≠ none ∨
      ∃ items more, (readItems (before ++ dryRunArgument :: after)).1 = items ++ .flag .dryRun :: more ∧
        readItems (before ++ after) = (items ++ more, (readItems (before ++ dryRunArgument :: after)).2) := by
  induction before using readItems.induct with
  | case1 =>
    -- the flag comes first
    have hread : readArgument dryRunArgument = ([.flag .dryRun], .complete) := by decide +kernel
    rw [List.nil_append, List.nil_append, readItems_of_complete after (by decide) hread]
    exact .inr ⟨[], (readItems after).1, rfl, rfl⟩
  | case2 argument rest hend => simp [readItems, hend]
  | case3 argument rest hend items hread more fault? hrest ih =>
    rw [List.cons_append, List.cons_append, readItems_of_complete _ hend hread, readItems_of_complete _ hend hread]
    refine ih.imp_right ?_
    rintro ⟨front, back, hwith, hwithout⟩
    exact ⟨items ++ front, back, by rw [hwith, List.append_assoc], by rw [hwithout, List.append_assoc]⟩
  | case4 argument rest hend items fault hread => simp [readItems, hend, hread]
  | case5 argument hend items p hread =>
    -- it would have to be the value, but it looks like an option
    have hoption : isOption dryRunArgument = true := by decide
    simp [readItems, hend, hread, hoption]
  | case6 argument hend items p hread value rest hoption => simp [readItems, hend, hread, hoption]
  | case7 argument hend items p hread value rest hvalue more fault? hrest ih =>
    simp only [List.cons_append, readItems_of_wants _ hend hread hvalue]
    refine ih.imp_right ?_
    rintro ⟨front, back, hwith, hwithout⟩
    exact ⟨items ++ .parameter p value :: front, back, by rw [hwith, List.append_assoc, List.cons_append],
      by rw [hwithout, List.append_assoc, List.cons_append]⟩

/-- Files are generated only if nothing was wrong with the arguments. -/
theorem ofArguments_eq_generate_iff {arguments : List String} {o : Options} :
    Task.ofArguments arguments = .ok (.generate o) ↔
      (readItems arguments).2 = none ∧ Task.ofItems none {} (readItems arguments).1 = .ok (.generate o) := by
  simp only [Task.ofArguments]
  cases (readItems arguments).2 with
  | none => simp
  | some fault => simp [Task.ofItems_fault]

theorem filter_bne_of_count {item : Item} {items : List Item} (h : items.count item = 0) :
    items.filter (· != item) = items := by
  refine List.filter_eq_self.2 fun other hother => bne_iff_ne.2 ?_
  rintro rfl
  exact List.count_eq_zero.1 h hother

/-- Without the flag of a dry run the arguments are those of the command that writes. -/
theorem ofArguments_without_dryRun {before after : List String} {o : Options}
    (h : Task.ofArguments (before ++ dryRunArgument :: after) = .ok (.generate o)) :
    o.dryRun = true ∧ Task.ofArguments (before ++ after) = .ok (.generate (o.writing o.output)) := by
  rw [ofArguments_eq_generate_iff] at h ⊢
  obtain ⟨hnone, hgenerate⟩ := h
  obtain ⟨items, more, hwith, hwithout⟩ := (readItems_dryRun before after).resolve_left (not_not.2 hnone)
  rw [hwith] at hgenerate
  obtain ⟨hcount, hitems⟩ := Task.ofItems_writing hgenerate
  rw [List.count_append, List.count_cons_self] at hcount
  have honce : o.dryRun.toNat ≤ 1 := Bool.toNat_le o.dryRun
  rw [List.filter_append, List.filter_cons_of_neg (by simp), filter_bne_of_count (by omega),
    filter_bne_of_count (by omega)] at hitems
  have hlists : o.dryRun.toNat ≠ 0 := by omega
  refine ⟨by simpa using hlists, ?_⟩
  rw [hwithout]
  exact ⟨hnone, hitems⟩

end Stencil.Command
