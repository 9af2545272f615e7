import Mathlib.Data.List.Induction
import Stencil.Proofs.Table
import Stencil.Types.Custom
/-!
# What custom types remember

Custom types are changed by three calls. What they are after any number of them depends on little: a domain is there
exactly if it was `Registered` since everything was cleared last, and a token has the replacement that `Stands` for it.
Both are said by looking back over the calls. `get?_register` and `get?_set` say what one call does to one domain; what
all calls together have led to follows by induction on the calls, the last one first (`remembers_last_set`).
-/

namespace Stencil.CustomTypes

/-! ## Calls -/

/-- A call that changes custom types. -/
inductive Call where
  | register (domain : String)
  | set (domain token replacement : String)
  | clear

/-- The custom types after the call. -/
def Call.perform (types : CustomTypes) : Call → CustomTypes
  | register domain => types.register domain
  | set domain token replacement => (types.set domain token replacement).2
  | clear => types.clear

/-- New custom types after calls, one after another. -/
def performAll (calls : List Call) : CustomTypes := calls.foldl Call.perform Table.empty

/-- The domain was registered, and nothing was cleared after that. -/
def Registered (calls : List Call) (domain : String) : Prop :=
  ∃ before after, calls = before ++ .register domain :: after ∧ .clear ∉ after

/-- The token was set in the domain when this was registered, nothing was cleared after that, and `after` is what came
after it. -/
def SetBefore (calls : List Call) (domain token replacement : String) (after : List Call) : Prop :=
  ∃ before, calls = before ++ .set domain token replacement :: after ∧ Registered before domain ∧ .clear ∉ after

/-- The replacement is the one of the last call that set the token in the registered domain. -/
def Stands (calls : List Call) (domain token replacement : String) : Prop :=
  ∃ after, SetBefore calls domain token replacement after ∧ ∀ r, .set domain token r ∉ after

/-- Whether the call is about the token in the domain, or about the domain as a whole. -/
def Call.concerns (domain token : String) : Call → Bool
  | register d => d == domain
  | set d t _ => d == domain && t == token
  | clear => true

/-! ## One call -/

section Calls

variable {types : CustomTypes} {domain token : String}

theorem get?_register (types : CustomTypes) (d domain : String) : (types.register d).get? domain =
    if d = domain then some ((types.get? domain).getD Table.empty) else types.get? domain := by
  unfold register
  by_cases hd : d = domain
  · subst hd
    cases h : types.get? d with
    | none => simp [Table.contains, h, Table.get?_insert]
    | some table => simp [Table.contains, h]
  · rw [if_neg hd]
    split
    · rfl
    · rw [Table.get?_insert, if_neg hd]

theorem get?_set (types : CustomTypes) (d t r domain : String) : (types.set d t r).2.get? domain =
    if d = domain then (types.get? domain).map (·.insert t r) else types.get? domain := by
  unfold set
  by_cases hd : d = domain
  · subst hd
    cases h : types.get? d with
    | none => simp [h]
    | some table => simp [Table.get?_insert]
  · rw [if_neg hd]
    cases types.get? d with
    | none => rfl
    | some table => rw [Table.get?_insert, if_neg hd]

/-- A replacement is set exactly where the domain is registered. -/
theorem set_fst (types : CustomTypes) (d t r : String) : (types.set d t r).1 = types.isRegistered d := by
  unfold set isRegistered Table.contains
  cases types.get? d <;> rfl

/-- A domain that is registered again stays as it is. -/
theorem register_of_isRegistered (h : types.isRegistered domain = true) : types.register domain = types :=
  if_pos h

/-- A domain is there after the call that registers it, and after any other that does not clear if it was there. -/
theorem isRegistered_perform_iff (c : Call) : (c.perform types).isRegistered domain = true ↔
    c = .register domain ∨ c ≠ .clear ∧ types.isRegistered domain = true := by
  unfold isRegistered Table.contains
  cases c with
  | register d => by_cases hd : d = domain <;> simp [Call.perform, get?_register, hd]
  | set d t r => by_cases hd : d = domain <;> simp [Call.perform, get?_set, hd]
  | clear => simp [Call.perform, clear]

theorem lookup?_register (types : CustomTypes) (d domain token : String) :
    (types.register d).lookup? domain token = types.lookup? domain token := by
  rw [lookup?, lookup?, get?_register]
  by_cases hd : d = domain
  · rw [if_pos hd]
    cases types.get? domain <;> rfl
  · rw [if_neg hd]

theorem lookup?_set (types : CustomTypes) (d t r domain token : String) : (types.set d t r).2.lookup? domain token =
    if types.isRegistered d = true ∧ d = domain ∧ t = token then some r else types.lookup? domain token := by
  rw [lookup?, lookup?, get?_set, isRegistered, Table.contains]
  by_cases hd : d = domain
  · subst hd
    cases types.get? d with
    | none => simp
    | some table => simp [Table.get?_insert]
  · simp [hd]

theorem isRegistered_of_lookup? {r : String} (h : types.lookup? domain token = some r) :
    types.isRegistered domain = true := by
  obtain ⟨table, htable, -⟩ := Option.bind_eq_some_iff.1 h
  rw [isRegistered, Table.contains, htable]
  rfl

/-- Where a domain is not registered, nothing is set. -/
theorem set_of_not_isRegistered (h : ¬ types.isRegistered domain = true) (t r : String) :
    (types.set domain t r).2 = types := by
  have hnone : types.get? domain = none := by simpa [isRegistered, Table.contains] using h
  simp only [set, hnone]

/-- What a call makes of a token in a domain depends on what there was for it, and on nothing else. -/
theorem perform_congr {types' : CustomTypes} (hlookup : types.lookup? domain token = types'.lookup? domain token)
    (hregistered : types.isRegistered domain = types'.isRegistered domain) (c : Call) :
    (c.perform types).lookup? domain token = (c.perform types').lookup? domain token ∧
      (c.perform types).isRegistered domain = (c.perform types').isRegistered domain := by
  refine ⟨?_, ?_⟩
  · cases c with
    | register d => simp only [Call.perform, lookup?_register, hlookup]
    | set d t r =>
      simp only [Call.perform, lookup?_set, hlookup]
      by_cases hd : d = domain
      · rw [hd, hregistered]
      · simp [hd]
    | clear => rfl
  · rw [Bool.eq_iff_iff, isRegistered_perform_iff, isRegistered_perform_iff, hregistered]

/-- A call that does not concern the token in the domain leaves what there is for it. -/
theorem perform_of_not_concerns {c : Call} (h : c.concerns domain token = false) :
    (c.perform types).lookup? domain token = types.lookup? domain token ∧
      (c.perform types).isRegistered domain = types.isRegistered domain := by
  cases c with
  | register d =>
    have hd : d ≠ domain := by simpa [Call.concerns] using h
    refine ⟨lookup?_register types d domain token, ?_⟩
    simp [Call.perform, isRegistered, Table.contains, get?_register, hd]
  | set d t r =>
    have hdt : ¬ (d = domain ∧ t = token) := by simpa [Call.concerns] using h
    refine ⟨?_, ?_⟩
    · rw [Call.perform, lookup?_set, if_neg fun hs => hdt hs.2]
    · by_cases hd : d = domain <;> simp [Call.perform, isRegistered, Table.contains, get?_set, hd]
  | clear => cases h

end Calls

/-! ## Looking back -/

section History

variable {calls : List Call} {c : Call} {domain token r : String}

theorem performAll_append_singleton (calls : List Call) (c : Call) :
    performAll (calls ++ [c]) = c.perform (performAll calls) := by
  rw [performAll, List.foldl_append]
  rfl

/-- A call among calls is the last one, or stands among those in front of it. -/
theorem append_singleton_eq_iff {before after : List Call} {d : Call} : calls ++ [c] = before ++ d :: after ↔
    calls = before ∧ c = d ∧ after = [] ∨ ∃ front, after = front ++ [c] ∧ calls = before ++ d :: front := by
  constructor
  · intro h
    rcases List.eq_nil_or_concat' after with rfl | ⟨front, last, rfl⟩
    · obtain ⟨rfl, hc⟩ := List.append_inj' h rfl
      exact .inl ⟨rfl, List.singleton_inj.1 hc, rfl⟩
    · rw [← List.cons_append, ← List.append_assoc] at h
      obtain ⟨rfl, hc⟩ := List.append_inj' h rfl
      obtain rfl := List.singleton_inj.1 hc
      exact .inr ⟨front, rfl, rfl⟩
  · rintro (⟨rfl, rfl, rfl⟩ | ⟨front, rfl, rfl⟩)
    · rfl
    · simp

theorem registered_append_singleton : Registered (calls ++ [c]) domain ↔
    c = .register domain ∨ c ≠ .clear ∧ Registered calls domain := by
  simp only [Registered, append_singleton_eq_iff]
  constructor
  · rintro ⟨before, after, ⟨-, hc, -⟩ | ⟨front, rfl, hcalls⟩, hclear⟩
    · exact .inl hc
    · rw [List.mem_append, List.mem_singleton, not_or] at hclear
      exact .inr ⟨Ne.symm hclear.2, before, front, hcalls, hclear.1⟩
  · rintro (hc | ⟨hc, before, front, hcalls, hclear⟩)
    · exact ⟨calls, [], .inl ⟨rfl, hc, rfl⟩, List.not_mem_nil⟩
    · exact ⟨before, front ++ [c], .inr ⟨front, rfl, hcalls⟩, by simpa [hclear] using Ne.symm hc⟩

theorem setBefore_append_singleton {after : List Call} : SetBefore (calls ++ [c]) domain token r after ↔
    c = .set domain token r ∧ Registered calls domain ∧ after = [] ∨
      ∃ front, after = front ++ [c] ∧ c ≠ .clear ∧ SetBefore calls domain token r front := by
  simp only [SetBefore, append_singleton_eq_iff]
  constructor
  · rintro ⟨before, ⟨rfl, hc, hafter⟩ | ⟨front, rfl, hcalls⟩, hregistered, hclear⟩
    · exact .inl ⟨hc, hregistered, hafter⟩
    · rw [List.mem_append, List.mem_singleton, not_or] at hclear
      exact .inr ⟨front, rfl, Ne.symm hclear.2, before, hcalls, hregistered, hclear.1⟩
  · rintro (⟨hc, hregistered, hafter⟩ | ⟨front, rfl, hc, before, hcalls, hregistered, hclear⟩)
    · exact ⟨calls, .inl ⟨rfl, hc, hafter⟩, hregistered, hafter ▸ List.not_mem_nil⟩
    · exact ⟨before, .inr ⟨front, rfl, hcalls⟩, hregistered, by simpa [hclear] using Ne.symm hc⟩

theorem stands_append_singleton : Stands (calls ++ [c]) domain token r ↔
    c = .set domain token r ∧ Registered calls domain ∨
      c ≠ .clear ∧ (∀ r', c ≠ .set domain token r') ∧ Stands calls domain token r := by
  simp only [Stands, setBefore_append_singleton]
  constructor
  · rintro ⟨after, ⟨hc, hregistered, -⟩ | ⟨front, rfl, hc, hset⟩, hlast⟩
    · exact .inl ⟨hc, hregistered⟩
    · simp only [List.mem_append, List.mem_singleton, not_or] at hlast
      exact .inr ⟨hc, fun r' => Ne.symm (hlast r').2, front, hset, fun r' => (hlast r').1⟩
  · rintro (⟨hc, hregistered⟩ | ⟨hc, hother, front, hset, hlast⟩)
    · exact ⟨[], .inl ⟨hc, hregistered, rfl⟩, fun _ => List.not_mem_nil⟩
    · refine ⟨front ++ [c], .inr ⟨front, rfl, hc, hset⟩, fun r' => ?_⟩
      simpa [hlast r'] using Ne.symm (hother r')

/-- A domain is there exactly if it was registered since everything was cleared last. -/
theorem isRegistered_performAll_iff : (performAll calls).isRegistered domain = true ↔ Registered calls domain := by
  induction calls using List.reverseRecOn with
  | nil => simp [performAll, isRegistered, Table.contains, Registered]
  | append_singleton calls c ih =>
    rw [performAll_append_singleton, isRegistered_perform_iff, registered_append_singleton, ih]

/-- A token has the replacement that stands for it. -/
theorem lookup?_performAll_eq_some_iff :
    (performAll calls).lookup? domain token = some r ↔ Stands calls domain token r := by
  induction calls using List.reverseRecOn with
  | nil => simp [performAll, lookup?, Stands, SetBefore]
  | append_singleton calls c ih =>
    rw [performAll_append_singleton, stands_append_singleton, ← ih, ← isRegistered_performAll_iff]
    cases c with
    | register d => simp [Call.perform, lookup?_register]
    | set d t r' =>
      rw [Call.perform, lookup?_set]
      by_cases hdt : d = domain ∧ t = token
      · obtain ⟨rfl, rfl⟩ := hdt
        by_cases hregistered : (performAll calls).isRegistered d = true
        · simp [hregistered]
        · -- the call was ignored, and there is nothing in a domain that is not registered
          have hnone : (performAll calls).lookup? d t ≠ some r :=
            fun h => hregistered (isRegistered_of_lookup? h)
          simp [hregistered, hnone]
      · have hother : ∀ r₁ r₂, Call.set d t r₁ ≠ .set domain token r₂ := by
          rintro r₁ r₂ ⟨⟩
          exact hdt ⟨rfl, rfl⟩
        simp [hdt, hother]
    | clear => simp [Call.perform, clear, lookup?]

theorem SetBefore.registered {after : List Call} (h : SetBefore calls domain token r after) :
    Registered calls domain := by
  obtain ⟨_, rfl, ⟨before, between, rfl, hbetween⟩, hafter⟩ := h
  exact ⟨before, between ++ .set domain token r :: after, by simp, by simp [hbetween, hafter]⟩

/-- Where a token was set at all, there is a last call that set it. -/
theorem exists_stands_iff : (∃ r, Stands calls domain token r) ↔ ∃ r after, SetBefore calls domain token r after := by
  refine ⟨fun ⟨r, after, h, _⟩ => ⟨r, after, h⟩, fun h => ?_⟩
  induction calls using List.reverseRecOn with
  | nil =>
    obtain ⟨_, _, _, hnil, -⟩ := h
    simp at hnil
  | append_singleton calls c ih =>
    simp only [stands_append_singleton]
    obtain ⟨r, after, h⟩ := h
    rcases setBefore_append_singleton.1 h with ⟨hc, hregistered, -⟩ | ⟨front, -, hc, hset⟩
    · exact ⟨r, .inl ⟨hc, hregistered⟩⟩
    · by_cases hagain : ∃ r', c = .set domain token r'
      · obtain ⟨r', hr'⟩ := hagain
        exact ⟨r', .inl ⟨hr', hset.registered⟩⟩
      · obtain ⟨r', hr'⟩ := ih ⟨r, front, hset⟩
        exact ⟨r', .inr ⟨hc, not_exists.1 hagain, hr'⟩⟩

/-- Nothing else matters than the calls that concern the token in the domain. -/
theorem performAll_filter_concerns (calls : List Call) (domain token : String) :
    (performAll (calls.filter (·.concerns domain token))).lookup? domain token =
        (performAll calls).lookup? domain token ∧
      (performAll (calls.filter (·.concerns domain token))).isRegistered domain =
        (performAll calls).isRegistered domain := by
  induction calls using List.reverseRecOn with
  | nil => exact ⟨rfl, rfl⟩
  | append_singleton calls c ih =>
    rw [List.filter_append, performAll_append_singleton]
    by_cases hc : c.concerns domain token = true
    · rw [List.filter_cons_of_pos hc, List.filter_nil, performAll_append_singleton]
      exact perform_congr ih.1 ih.2 c
    · rw [List.filter_cons_of_neg hc, List.filter_nil, List.append_nil]
      have hother : c.concerns domain token = false := Bool.not_eq_true _ ▸ hc
      rw [(perform_of_not_concerns hother).1, (perform_of_not_concerns hother).2]
      exact ih

end History

/-- After any calls of new custom types, a token has the replacement of the last call that set it in its domain since
this was registered after everything was cleared last, and none if there was no such call. A call that sets one says
exactly whether the domain was registered so, and changes nothing otherwise. A domain that is registered again stays as
it is, and calls for other domains and other tokens make no difference. The type of a property becomes the replacement,
or stays what it is. -/
theorem remembers_last_set (calls : List Call) (domain token : String) :
    let types := performAll calls
    let relevant := performAll (calls.filter (·.concerns domain token))
    (∀ r, types.lookup? domain token = some r ↔ Stands calls domain token r) ∧
    (types.lookup? domain token = none ↔ ¬ ∃ r after, SetBefore calls domain token r after) ∧
    (∀ r, (types.set domain token r).1 = true ↔ Registered calls domain) ∧
    (¬ Registered calls domain → ∀ r, (types.set domain token r).2 = types) ∧
    (Registered calls domain → types.register domain = types) ∧
    types.lookup? domain token = relevant.lookup? domain token ∧
    types.isRegistered domain = relevant.isRegistered domain ∧
    ∀ p : Property, (∀ r, Stands calls domain p.typeToken r → types.customType domain p = r) ∧
      ((¬ ∃ r, Stands calls domain p.typeToken r) → types.customType domain p = p.typeToken) := by
  intro types relevant
  have hstands (token r : String) : types.lookup? domain token = some r ↔ Stands calls domain token r :=
    lookup?_performAll_eq_some_iff
  have hnone (token : String) : types.lookup? domain token = none ↔ ¬ ∃ r, Stands calls domain token r := by
    simp only [← hstands, Option.eq_none_iff_forall_ne_some, not_exists, ne_eq]
  have hregistered : types.isRegistered domain = true ↔ Registered calls domain := isRegistered_performAll_iff
  obtain ⟨hlookup, hdomain⟩ := performAll_filter_concerns calls domain token
  refine ⟨hstands token, ?_, ?_, ?_, ?_, hlookup.symm, hdomain.symm, ?_⟩
  · rw [hnone, exists_stands_iff]
  · intro r
    rw [set_fst, hregistered]
  · intro h r
    exact set_of_not_isRegistered (mt hregistered.1 h) token r
  · intro h
    exact register_of_isRegistered (hregistered.2 h)
  · intro p
    unfold customType
    refine ⟨fun r h => ?_, fun h => ?_⟩
    · rw [(hstands p.typeToken r).2 h, Option.getD_some]
    · rw [(hnone p.typeToken).2 h, Option.getD_none]

/-- A replacement counts only from the registration on, and is kept when the domain is registered again. -/
theorem remembers_last_set_again :
    let calls : List Call := [.register "java", .set "java" "int" "byte", .clear, .set "java" "int" "short",
      .register "java", .set "java" "int" "long", .register "java", .set "sql" "int" "INT", .set "java" "char" "int"]
    let types := performAll calls
    Stands calls "java" "int" "long" ∧ types.lookup? "java" "int" = some "long" ∧
      Registered calls "java" ∧ types.register "java" = types ∧
      ¬ Registered calls "sql" ∧ (types.set "sql" "int" "INT").2 = types ∧
      types.customType "java" { typeToken := "int" } = "long" ∧
      types.customType "sql" { typeToken := "int" } = "int" := by
  intro calls types
  obtain ⟨hstands, -, hset, -, hagain, -, -, htype⟩ := remembers_last_set calls "java" "int"
  obtain ⟨-, hnone, hsetSql, hignored, -, -, -, htypeSql⟩ := remembers_last_set calls "sql" "int"
  have hlong : Stands calls "java" "int" "long" := (hstands "long").1 (by decide)
  have hjava : Registered calls "java" := (hset "long").1 (by decide)
  have hsql : ¬ Registered calls "sql" := fun h => absurd ((hsetSql "INT").2 h) (by decide)
  have hnothing : ¬ ∃ r, Stands calls "sql" "int" r :=
    fun ⟨r, after, h, _⟩ => hnone.1 (by decide) ⟨r, after, h⟩
  exact ⟨hlong, (hstands "long").2 hlong, hjava, hagain hjava, hsql, hignored hsql "INT",
    (htype { typeToken := "int" }).1 "long" hlong, (htypeSql { typeToken := "int" }).2 hnothing⟩

end Stencil.CustomTypes
