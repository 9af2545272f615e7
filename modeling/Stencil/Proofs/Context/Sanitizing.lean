import Stencil.Context
import Stencil.Proofs.Text.Naming
/-!
# What sanitizing does to a context

Sanitizing goes through a whole context and changes names in it. `Property.Sanitizes`, `Model.Sanitizes` and
`Context.Sanitizes` say of every field what becomes of it, from the inside out, and leave no choice: the sanitized
context is the only one that they allow (`sanitized_eq_iff`).
-/

namespace Stencil

open Text

/-- Only the local identifier of a property changes. -/
structure Property.Sanitizes (p p' : Property) : Prop where
  localName : Keeps IsIdentifierChar p.localName p'.localName
  remoteName : p'.remoteName = p.remoteName
  typeToken : p'.typeToken = p.typeToken
  isSet : p'.isSet = p.isSet

/-- The name of a model changes, and that of its parent if there is one. The properties stay in their places. -/
structure Model.Sanitizes (m m' : Model) : Prop where
  name : Keeps IsIdentifierChar m.name m'.name
  parent : Option.Rel (Keeps IsIdentifierChar) m.parent m'.parent
  properties : List.Forall₂ Property.Sanitizes m.properties m'.properties

/-- The names of a context change, and its path becomes that of the new package name. The models stay in their
places. -/
structure Context.Sanitizes (c c' : Context) : Prop where
  projectName : Keeps IsIdentifierChar c.projectName c'.projectName
  packageName : KeepsPackage c.packageName c'.packageName
  packagePath : List.Forall₂ (fun x y => y = if x = '.' then '/' else x) c'.packageName.toList c'.packagePath.toList
  models : List.Forall₂ Model.Sanitizes c.models c'.models
  features : c'.features = c.features

/-! ## Lists and options -/

/-- Where a function gives the only result in a relation, mapping it gives the only list that is related element by
element. -/
theorem map_eq_iff_forall₂ {α β : Type} {f : α → β} {R : α → β → Prop} (h : ∀ a b, f a = b ↔ R a b) {xs : List α}
    {ys : List β} : xs.map f = ys ↔ List.Forall₂ R xs ys := by
  rw [← List.forall₂_eq_eq_eq, List.forall₂_map_left_iff]
  simp only [h]

theorem optionMap_eq_iff_rel {α β : Type} {f : α → β} {R : α → β → Prop} (h : ∀ a b, f a = b ↔ R a b) {x : Option α}
    {y : Option β} : x.map f = y ↔ Option.Rel R x y := by
  cases x <;> cases y <;> simp [h]

/-! ## From the inside out -/

theorem Property.sanitized_eq_iff (p p' : Property) : p.sanitized = p' ↔ p.Sanitizes p' := by
  cases p'
  simp only [sanitized, Property.mk.injEq, cleanName_eq_iff]
  exact ⟨fun ⟨h1, h2, h3, h4⟩ => ⟨h2, h1.symm, h3.symm, h4.symm⟩, fun h =>
    ⟨h.remoteName.symm, h.localName, h.typeToken.symm, h.isSet.symm⟩⟩

theorem Model.sanitized_eq_iff (m m' : Model) : m.sanitized = m' ↔ m.Sanitizes m' := by
  cases m'
  simp only [sanitized, Model.mk.injEq, cleanName_eq_iff, optionMap_eq_iff_rel fun _ _ => cleanName_eq_iff,
    map_eq_iff_forall₂ Property.sanitized_eq_iff]
  exact ⟨fun ⟨h1, h2, h3⟩ => ⟨h1, h2, h3⟩, fun h => ⟨h.name, h.parent, h.properties⟩⟩

theorem Property.sanitized_sanitized (p : Property) : p.sanitized.sanitized = p.sanitized := by
  simp only [sanitized, cleanName_cleanName]

theorem Model.sanitized_sanitized (m : Model) : m.sanitized.sanitized = m.sanitized := by
  simp only [sanitized, cleanName_cleanName, Option.map_map, List.map_map, Function.comp_def,
    Property.sanitized_sanitized]

namespace Context

theorem sanitized_sanitized (c : Context) : c.sanitized.sanitized = c.sanitized := by
  simp only [sanitized, cleanName_cleanName, cleanPackageName_cleanPackageName, List.map_map, Function.comp_def,
    Model.sanitized_sanitized]

/-- Sanitizing keeps the identifier characters of the names of the project, the models, their parents and the local
identifiers, and no others, and those of the package with its full stops, or takes `com.example` where there are none.
The path is that of the new package. Everything else stays as it is, and sanitizing again changes nothing. -/
theorem sanitized_iff_sanitizes (c : Context) :
    (∀ c', c.sanitized = c' ↔ c.Sanitizes c') ∧ c.sanitized.sanitized = c.sanitized := by
  refine ⟨fun c' => ?_, c.sanitized_sanitized⟩
  have hmodels : c.models.map Model.sanitized = c'.models ↔ List.Forall₂ Model.Sanitizes c.models c'.models :=
    map_eq_iff_forall₂ Model.sanitized_eq_iff
  constructor
  · rintro rfl
    exact {
      projectName := keeps_cleanName c.projectName
      packageName := keepsPackage_cleanPackageName c.packageName
      packagePath := packagePath_eq_iff.1 rfl
      models := hmodels.1 rfl
      features := rfl }
  · intro h
    cases c'
    simp only [sanitized, Context.mk.injEq]
    have hpackage := cleanPackageName_eq_iff.2 h.packageName
    exact ⟨hpackage, cleanName_eq_iff.2 h.projectName, hpackage ▸ packagePath_eq_iff.2 h.packagePath,
      hmodels.2 h.models, h.features.symm⟩

example :
    let item : Model := ⟨"Line Item", some "Base-Entity", [⟨"unit-price", "unit-price", "double", false⟩]⟩
    (ofProject "My Shop!" "acme shop.app" [item] []).sanitized = ⟨"acmeshop.app", "MyShop", "acmeshop/app",
      [⟨"LineItem", some "BaseEntity", [⟨"unit-price", "unitprice", "double", false⟩]⟩], []⟩ := by
  decide

end Context

end Stencil
