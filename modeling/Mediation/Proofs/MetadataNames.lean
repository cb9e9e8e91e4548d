import Mathlib.Data.List.Basic
import Mediation.Symbol.TypeDecl

/-!
# Metadata names as identities

A metadata name writes a scope, a simple name and an arity as one text, and the global scope and the arity zero leave no
trace in it. The parts can be read off again: a simple name has no dot, so the last dot ends the scope, and it has no
backtick, so the last backtick begins the arity. Scopes may contain both.
-/

namespace Mediation

/-! ### The last separator -/

section Separator

variable {α : Type} {c : α} {before before' after after' : List α}

theorem eq_nil_of_cons_eq_append (hafter : c ∉ after) (h : c :: after = before ++ c :: after') : before = [] := by
  cases before with
  | nil => rfl
  | cons x before =>
    rw [List.cons_append, List.cons.injEq] at h
    have hmem : c ∈ before ++ c :: after' := List.mem_append_right before List.mem_cons_self
    exact absurd (h.2 ▸ hmem) hafter

/-- What stands before and after the last separator is determined. -/
theorem append_cons_inj_of_last (hafter : c ∉ after) (hafter' : c ∉ after')
    (h : before ++ c :: after = before' ++ c :: after') : before = before' ∧ after = after' := by
  rcases List.append_eq_append_iff.mp h with ⟨between, rfl, htail⟩ | ⟨between, rfl, htail⟩
  · obtain rfl := eq_nil_of_cons_eq_append hafter htail
    exact ⟨(List.append_nil before).symm, (List.cons.inj htail).2⟩
  · obtain rfl := eq_nil_of_cons_eq_append hafter' htail
    exact ⟨List.append_nil before', (List.cons.inj htail).2.symm⟩

end Separator

/-! ### Simple names and arities -/

/-- A name without a dot and without a backtick. -/
def IsSimpleName (name : String) : Prop := '.' ∉ name.toList ∧ '\x60' ∉ name.toList

instance (name : String) : Decidable (IsSimpleName name) := inferInstanceAs (Decidable (_ ∧ _))

/-- What an arity adds to a name. -/
def aritySuffix (arity : Nat) : String := if arity = 0 then "" else "`" ++ toString arity

@[simp] theorem aritySuffix_zero : aritySuffix 0 = "" := rfl

theorem toList_aritySuffix {arity : Nat} (h : arity ≠ 0) :
    (aritySuffix arity).toList = '\x60' :: Nat.toDigits 10 arity := by
  have hdigits : (toString arity).toList = Nat.toDigits 10 arity := Nat.toList_repr
  rw [aritySuffix, if_neg h, String.toList_append, hdigits]
  rfl

theorem not_mem_toDigits {c : Char} (hc : c.isDigit = false) (n : Nat) : c ∉ Nat.toDigits 10 n := by
  intro hmem
  rw [Nat.isDigit_of_mem_toDigits (by decide) (by decide) hmem] at hc
  cases hc

theorem toDigits_inj {m n : Nat} (h : Nat.toDigits 10 m = Nat.toDigits 10 n) : m = n := by
  rw [← Nat.ofDigitChars_ten_toDigits (n := m), h, Nat.ofDigitChars_ten_toDigits]

theorem dot_not_mem_aritySuffix (arity : Nat) : '.' ∉ (aritySuffix arity).toList := by
  by_cases hzero : arity = 0
  · simp [hzero]
  · rw [toList_aritySuffix hzero, List.mem_cons, not_or]
    exact ⟨by decide, not_mem_toDigits (by decide) arity⟩

theorem backtick_mem_append_aritySuffix_iff {name : String} (hname : '\x60' ∉ name.toList) (arity : Nat) :
    '\x60' ∈ (name ++ aritySuffix arity).toList ↔ arity ≠ 0 := by
  rw [String.toList_append, List.mem_append, or_iff_right hname]
  by_cases hzero : arity = 0
  · simp [hzero]
  · rw [toList_aritySuffix hzero]
    exact iff_of_true List.mem_cons_self hzero

theorem append_aritySuffix_inj {name name' : String} (hname : '\x60' ∉ name.toList) (hname' : '\x60' ∉ name'.toList)
    {arity arity' : Nat} (h : name ++ aritySuffix arity = name' ++ aritySuffix arity') :
    name = name' ∧ arity = arity' := by
  -- A backtick shows that there is an arity, and only then a suffix has to be split off.
  have hiff : arity ≠ 0 ↔ arity' ≠ 0 := by
    rw [← backtick_mem_append_aritySuffix_iff hname, h, backtick_mem_append_aritySuffix_iff hname']
  by_cases hzero : arity = 0
  · have hzero' : arity' = 0 := not_not.mp fun hne => hiff.mpr hne hzero
    rw [hzero, hzero', aritySuffix_zero, String.append_empty, String.append_empty] at h
    exact ⟨h, hzero.trans hzero'.symm⟩
  · have hlist := congrArg String.toList h
    rw [String.toList_append, String.toList_append, toList_aritySuffix hzero, toList_aritySuffix (hiff.mp hzero)]
      at hlist
    have hparts := append_cons_inj_of_last (not_mem_toDigits (by decide) arity)
      (not_mem_toDigits (by decide) arity') hlist
    exact ⟨String.toList_inj.mp hparts.1, toDigits_inj hparts.2⟩

theorem aritySuffix_inj {arity arity' : Nat} : aritySuffix arity = aritySuffix arity' ↔ arity = arity' := by
  constructor
  · intro h
    have hempty : '\x60' ∉ "".toList := by simp
    exact (append_aritySuffix_inj hempty hempty (congrArg ("" ++ ·) h)).2
  · rintro rfl
    rfl

/-! ### Scopes -/

theorem qualifiedName_append (scope name rest : String) :
    qualifiedName scope (name ++ rest) = qualifiedName scope name ++ rest := by
  rw [qualifiedName, qualifiedName]
  split
  · rfl
  · simp only [String.append_assoc]

theorem toList_qualifiedName {scope : String} (h : scope ≠ "") (name : String) :
    (qualifiedName scope name).toList = scope.toList ++ '.' :: name.toList := by
  rw [qualifiedName, if_neg h, String.toList_append, String.toList_append, List.append_assoc]
  rfl

theorem dot_mem_qualifiedName_iff {name : String} (hname : '.' ∉ name.toList) (scope : String) :
    '.' ∈ (qualifiedName scope name).toList ↔ scope ≠ "" := by
  by_cases hscope : scope = ""
  · rw [qualifiedName, if_pos hscope]
    exact iff_of_false hname (not_not.mpr hscope)
  · rw [toList_qualifiedName hscope]
    exact iff_of_true (List.mem_append_right _ List.mem_cons_self) hscope

theorem qualifiedName_inj {scope scope' name name' : String} (hname : '.' ∉ name.toList) (hname' : '.' ∉ name'.toList)
    (h : qualifiedName scope name = qualifiedName scope' name') : scope = scope' ∧ name = name' := by
  have hiff : scope ≠ "" ↔ scope' ≠ "" := by
    rw [← dot_mem_qualifiedName_iff hname, h, dot_mem_qualifiedName_iff hname']
  by_cases hscope : scope = ""
  · have hscope' : scope' = "" := not_not.mp fun hne => hiff.mpr hne hscope
    rw [qualifiedName, qualifiedName, if_pos hscope, if_pos hscope'] at h
    exact ⟨hscope.trans hscope'.symm, h⟩
  · have hlist := congrArg String.toList h
    rw [toList_qualifiedName hscope, toList_qualifiedName (hiff.mp hscope)] at hlist
    have hparts := append_cons_inj_of_last hname hname' hlist
    exact ⟨String.toList_inj.mp hparts.1, String.toList_inj.mp hparts.2⟩

/-! ### Metadata names -/

theorem metadataName_eq (scope name : String) (arity : Nat) :
    metadataName scope name arity = qualifiedName scope name ++ aritySuffix arity := by
  by_cases hzero : arity = 0
  · rw [hzero, aritySuffix_zero, String.append_empty]
    rfl
  · have hcast : (arity : Int) ≠ 0 := Int.natCast_ne_zero.mpr hzero
    rw [metadataName, if_neg hcast, aritySuffix, if_neg hzero, String.append_assoc]
    rfl

/-- Under one scope and name, simple or not, the metadata name determines the arity. -/
theorem metadataName_arity_inj (scope name : String) {arity arity' : Nat} :
    metadataName scope name arity = metadataName scope name arity' ↔ arity = arity' := by
  rw [metadataName_eq, metadataName_eq, String.append_right_inj, aritySuffix_inj]

theorem metadataName_inj {scope scope' name name' : String} {arity arity' : Nat} (hname : IsSimpleName name)
    (hname' : IsSimpleName name') (h : metadataName scope name arity = metadataName scope' name' arity') :
    scope = scope' ∧ name = name' ∧ arity = arity' := by
  have hdot : ∀ {name : String} (arity : Nat), IsSimpleName name → '.' ∉ (name ++ aritySuffix arity).toList := by
    intro name arity hname
    rw [String.toList_append, List.mem_append, not_or]
    exact ⟨hname.1, dot_not_mem_aritySuffix arity⟩
  -- The arity goes with the name, so that the last dot is the one in front of the name.
  rw [metadataName_eq, metadataName_eq, ← qualifiedName_append, ← qualifiedName_append] at h
  obtain ⟨hscope, hlocal⟩ := qualifiedName_inj (hdot arity hname) (hdot arity' hname') h
  exact ⟨hscope, append_aritySuffix_inj hname.2 hname'.2 hlocal⟩

/-- A name with a dot can take the place of a scope. -/
example : metadataName "" "Shop.Box" 0 = metadataName "Shop" "Box" 0 := by decide +kernel

/-- A metadata name of a simple name determines its parts. So a declaration and a reference with simple names have one
identity exactly if they agree in scope, name, assembly and arity. -/
theorem metadata_names_identify :
    (∀ (scope scope' name name' : String) (arity arity' : Nat), IsSimpleName name → IsSimpleName name' →
      metadataName scope name arity = metadataName scope' name' arity' →
      scope = scope' ∧ name = name' ∧ arity = arity')
      ∧ ∀ (d : TypeDecl) (r : TypeRef), IsSimpleName d.name → IsSimpleName r.name →
        (d.key = r.key
          ↔ d.scope = r.scope ∧ d.name = r.name ∧ d.assembly = r.assembly ∧ d.typeParameters.length = r.arity) := by
  refine ⟨fun _ _ _ _ _ _ hname hname' h => metadataName_inj hname hname' h, fun d r hname hname' => ?_⟩
  rw [TypeDecl.key, TypeRef.key, DefinitionKey.mk.injEq]
  constructor
  · rintro ⟨hmetadata, hassembly⟩
    obtain ⟨hscope, hsame, harity⟩ := metadataName_inj hname hname' hmetadata
    exact ⟨hscope, hsame, hassembly, harity⟩
  · rintro ⟨hscope, hsame, hassembly, harity⟩
    rw [TypeDecl.metadataName, TypeRef.metadataName, hscope, hsame, harity]
    exact ⟨rfl, hassembly⟩

/-- A generic declaration in a scope with a dot and a backtick; `orderBox` is a reference to it. -/
def nestedBox : TypeDecl := { name := "Box", scope := "Shop.Shelf`1", assembly := "Shop", typeParameters := ["T"] }

def orderBox : TypeRef :=
  { name := "Box", scope := "Shop.Shelf`1", assembly := "Shop", arguments := [{ name := "Order", scope := "Shop" }] }

theorem metadata_names_identify_nestedBox :
    IsSimpleName nestedBox.name ∧ nestedBox.key = orderBox.key
      ∧ nestedBox.scope = orderBox.scope ∧ nestedBox.typeParameters.length = orderBox.arity := by
  have hname : IsSimpleName "Box" := by decide +kernel
  have hkey : nestedBox.key = orderBox.key :=
    (metadata_names_identify.2 nestedBox orderBox hname hname).mpr ⟨rfl, rfl, rfl, rfl⟩
  have hmetadata : metadataName nestedBox.scope nestedBox.name nestedBox.typeParameters.length
      = metadataName orderBox.scope orderBox.name orderBox.arity := congrArg DefinitionKey.metadataName hkey
  have hparts := metadata_names_identify.1 _ _ _ _ _ _ hname hname hmetadata
  exact ⟨hname, hkey, hparts.1, hparts.2.2⟩

end Mediation
