import Mathlib.Data.List.Perm.Basic
import Mediation.Proofs.Roles

/-!
# Programs in another order

Two programs that differ in the order of their declarations, of the interfaces of a declaration, of their calls and of
their suppressions. If identities are distinct, every reference means the same declaration in both up to the order of
its interfaces, so that the declarations above correspond although a walk meets them in another order. Hence the roles
are the same sets.
-/

namespace Mediation

/-! ### Lists that match up to order -/

/-- The items of `xs` are related one by one to those of `ys`, in some order. -/
def Matched {α : Type} (rel : α → α → Prop) (xs ys : List α) : Prop := ∃ zs, List.Forall₂ rel xs zs ∧ zs.Perm ys

namespace Matched

variable {α : Type} {rel : α → α → Prop} {xs ys : List α}

theorem symm (hsymm : ∀ x y, rel x y → rel y x) (h : Matched rel xs ys) : Matched rel ys xs := by
  obtain ⟨zs, hrel, hperm⟩ := h
  have hback : List.Forall₂ rel zs xs := by
    apply List.Forall₂.flip
    exact hrel.imp hsymm
  exact List.perm_comp_forall₂ hperm.symm hback

theorem exists_mem (h : Matched rel xs ys) {x : α} (hx : x ∈ xs) : ∃ y ∈ ys, rel x y := by
  obtain ⟨zs, hrel, hperm⟩ := h
  induction hrel generalizing ys with
  | nil => simp at hx
  | @cons a b as bs hab _ ih =>
    rcases List.mem_cons.mp hx with rfl | hx
    · exact ⟨b, hperm.subset List.mem_cons_self, hab⟩
    · obtain ⟨y, hy, hxy⟩ := ih hx (List.Perm.refl bs)
      exact ⟨y, hperm.subset (List.mem_cons_of_mem b hy), hxy⟩

theorem filter (h : Matched rel xs ys) {keep : α → Bool} (hkeep : ∀ x y, rel x y → keep x = keep y) :
    Matched rel (xs.filter keep) (ys.filter keep) := by
  obtain ⟨zs, hrel, hperm⟩ := h
  refine ⟨zs.filter keep, List.rel_filter (fun x y hxy => ?_) hrel, hperm.filter keep⟩
  exact Bool.eq_iff_iff.mp (hkeep x y hxy)

theorem flatMap_perm {β : Type} {f g : α → List β} (h : Matched rel xs ys)
    (hfg : ∀ x ∈ xs, ∀ y ∈ ys, rel x y → f x = g y) : (xs.flatMap f).Perm (ys.flatMap g) := by
  obtain ⟨zs, hrel, hperm⟩ := h
  have hzs : ∀ x ∈ xs, ∀ z ∈ zs, rel x z → f x = g z := fun x hx z hz => hfg x hx z (hperm.subset hz)
  have hflat : xs.flatMap f = zs.flatMap g := by
    clear hfg hperm
    induction hrel with
    | nil => rfl
    | cons hab _ ih =>
      rw [List.flatMap_cons, List.flatMap_cons, hzs _ List.mem_cons_self _ List.mem_cons_self hab]
      rw [ih fun x hx z hz => hzs x (List.mem_cons_of_mem _ hx) z (List.mem_cons_of_mem _ hz)]
  rw [hflat]
  exact hperm.flatMap_right g

theorem map_perm {β : Type} {f : α → β} (h : Matched rel xs ys) (hf : ∀ x y, rel x y → f x = f y) :
    (xs.map f).Perm (ys.map f) := by
  rw [List.map_eq_flatMap, List.map_eq_flatMap]
  apply h.flatMap_perm
  intro x _ y _ hxy
  rw [hf x y hxy]

theorem eq_singleton {x : α} (h : Matched rel [x] ys) : ∃ y, ys = [y] ∧ rel x y := by
  obtain ⟨zs, hrel, hperm⟩ := h
  cases hrel with
  | @cons _ y _ _ hxy hrest =>
    cases hrest
    exact ⟨y, (List.singleton_perm.mp hperm).symm, hxy⟩

end Matched

/-! ### Declarations and programs -/

/-- The declarations differ in the order of their interfaces only. -/
def TypeDecl.Reordered (d d' : TypeDecl) : Prop := ∃ interfaces, interfaces.Perm d.interfaces ∧ d' = { d with interfaces }

namespace TypeDecl.Reordered

variable {d d' : TypeDecl}

theorem symm (h : d.Reordered d') : d'.Reordered d := by
  obtain ⟨interfaces, hperm, rfl⟩ := h
  exact ⟨d.interfaces, hperm.symm, rfl⟩

theorem key_eq (h : d.Reordered d') : d.key = d'.key := by
  obtain ⟨interfaces, -, rfl⟩ := h
  rfl

theorem metadataName_eq (h : d.Reordered d') : d.metadataName = d'.metadataName := by
  obtain ⟨interfaces, -, rfl⟩ := h
  rfl

theorem mem_interfaces (h : d.Reordered d') {r : TypeRef} (hr : r ∈ d.interfaces) : r ∈ d'.interfaces := by
  obtain ⟨interfaces, hperm, rfl⟩ := h
  exact hperm.mem_iff.mpr hr

theorem mem_parents (h : d.Reordered d') {r : TypeRef} (hr : r ∈ d.parents) : r ∈ d'.parents := by
  obtain ⟨interfaces, hperm, rfl⟩ := h
  rcases List.mem_append.mp hr with hr | hr
  · exact List.mem_append_left _ hr
  · exact List.mem_append_right _ (hperm.mem_iff.mpr hr)

end TypeDecl.Reordered

/-- The programs differ in the order of declarations, of their interfaces, of calls and of suppressions only. Names of
programs play no part. -/
structure Program.Reordered (p p' : Program) : Prop where
  types : Matched TypeDecl.Reordered p.types p'.types
  invocations : p.invocations.Perm p'.invocations
  suppressions : p.suppressions.Perm p'.suppressions

namespace Program.Reordered

variable {p p' : Program}

theorem symm (h : p.Reordered p') : p'.Reordered p where
  types := h.types.symm fun _ _ hd => hd.symm
  invocations := h.invocations.symm
  suppressions := h.suppressions.symm

theorem nodup_keys (h : p.Reordered p') (hkeys : (p.types.map TypeDecl.key).Nodup) :
    (p'.types.map TypeDecl.key).Nodup :=
  (h.types.map_perm fun _ _ hd => hd.key_eq).nodup_iff.mp hkeys

theorem declares_iff (h : p.Reordered p') (key : DefinitionKey) :
    (∃ t ∈ p.types, t.key = key) ↔ ∃ t ∈ p'.types, t.key = key := by
  have hone : ∀ {q q' : Program}, q.Reordered q' → (∃ t ∈ q.types, t.key = key) → ∃ t ∈ q'.types, t.key = key := by
    rintro q q' hq ⟨t, ht, hkey⟩
    obtain ⟨t', ht', htt'⟩ := hq.types.exists_mem ht
    exact ⟨t', ht', htt'.key_eq.symm.trans hkey⟩
  exact ⟨hone h, hone h.symm⟩

theorem isSome_find? (h : p.Reordered p') (key : DefinitionKey) :
    (p.symbols.find? key).isSome = (p'.symbols.find? key).isSome := by
  rw [Bool.eq_iff_iff, Program.symbols, Program.symbols, SymbolTable.isSome_find?_iff, SymbolTable.isSome_find?_iff]
  exact h.declares_iff key

theorem catalog_eq (h : p.Reordered p') : p.catalog = p'.catalog := by
  have hregistration : ∀ (q : Program) (key : DefinitionKey),
      (q.symbols.find? key).map TypeDecl.key = if (q.symbols.find? key).isSome then some key else none := by
    intro q key
    cases hfind : q.symbols.find? key with
    | none => rfl
    | some t => simpa using SymbolTable.key_of_find? hfind
  rw [Program.catalog, Program.catalog, Catalog.ofSymbols, Catalog.ofSymbols]
  simp only [hregistration, h.isSome_find?]

/-! ### What references mean -/

theorem find?_eq_some (h : p.Reordered p') (hkeys : (p.types.map TypeDecl.key).Nodup) {key : DefinitionKey}
    {e : TypeDecl} (he : p.symbols.find? key = some e) : ∃ e', p'.symbols.find? key = some e' ∧ e.Reordered e' := by
  obtain ⟨e', he', hee'⟩ := h.types.exists_mem (SymbolTable.mem_of_find? he)
  have hkey : e'.key = key := by rw [← hee'.key_eq, SymbolTable.key_of_find? he]
  have hfind : p'.symbols.find? e'.key = some e' := SymbolTable.find?_key_of_mem (h.nodup_keys hkeys) he'
  exact ⟨e', hkey ▸ hfind, hee'⟩

theorem findUnique?_eq_some (h : p.Reordered p') {name : String} {e : TypeDecl}
    (he : p.symbols.findUnique? name = some e) :
    ∃ e', p'.symbols.findUnique? name = some e' ∧ e.Reordered e' := by
  have hnamed := (SymbolTable.findUnique?_eq_some_iff p.types name e).mp he
  have hmatched := h.types.filter fun x y (hxy : x.Reordered y) =>
    show decide (x.metadataName = name) = decide (y.metadataName = name) by rw [hxy.metadataName_eq]
  rw [hnamed] at hmatched
  obtain ⟨e', he', hee'⟩ := hmatched.eq_singleton
  exact ⟨e', (SymbolTable.findUnique?_eq_some_iff p'.types name e').mpr he', hee'⟩

theorem resolve_eq_some (h : p.Reordered p') (hkeys : (p.types.map TypeDecl.key).Nodup) {r : TypeRef} {e : TypeDecl}
    (he : p.symbols.resolve r = some e) : ∃ e', p'.symbols.resolve r = some e' ∧ e.Reordered e' := by
  simp only [SymbolTable.resolve_eq_some_iff] at he ⊢
  rcases he with hfind | ⟨hnone, hassembly, hunique⟩
  · obtain ⟨e', he', hee'⟩ := h.find?_eq_some hkeys hfind
    exact ⟨e', Or.inl he', hee'⟩
  · have hnone' : p'.symbols.find? r.key = none := by
      rw [← Option.not_isSome_iff_eq_none, ← h.isSome_find?, hnone]
      simp
    obtain ⟨e', he', hee'⟩ := h.findUnique?_eq_some hunique
    exact ⟨e', Or.inr ⟨hnone', hassembly, he'⟩, hee'⟩

/-- A reference means nothing in both programs, or declarations that correspond. -/
theorem resolve_cases (h : p.Reordered p') (hkeys : (p.types.map TypeDecl.key).Nodup) (r : TypeRef) :
    p.symbols.resolve r = none ∧ p'.symbols.resolve r = none
      ∨ ∃ e e', p.symbols.resolve r = some e ∧ p'.symbols.resolve r = some e' ∧ e.Reordered e' := by
  cases hresolve : p.symbols.resolve r with
  | some e =>
    obtain ⟨e', he', hee'⟩ := h.resolve_eq_some hkeys hresolve
    exact Or.inr ⟨e, e', rfl, he', hee'⟩
  | none =>
    refine Or.inl ⟨rfl, ?_⟩
    cases hresolve' : p'.symbols.resolve r with
    | none => rfl
    | some e' =>
      obtain ⟨e, he, -⟩ := h.symm.resolve_eq_some (h.nodup_keys hkeys) hresolve'
      rw [hresolve] at he
      cases he

/-! ### What stands above -/

theorem above (h : p.Reordered p') (hkeys : (p.types.map TypeDecl.key).Nodup) {d d' e : TypeDecl}
    (hd : d.Reordered d') (hd' : d' ∈ p'.types) (he : p.symbols.Above d e) :
    ∃ e', e.Reordered e' ∧ p'.symbols.Above d' e' := by
  induction he with
  | self => exact ⟨d', hd, .self⟩
  | @parent e₁ e₂ _ r hr hresolve _ ih =>
    obtain ⟨e₁', he₁, habove⟩ := ih
    obtain ⟨e₂', hresolve', he₂⟩ := h.resolve_eq_some hkeys hresolve
    refine ⟨e₂', he₂, .parent habove r (he₁.mem_parents hr) hresolve' fun hkey => ?_⟩
    exact List.inj_on_of_nodup_map (h.nodup_keys hkeys) (SymbolTable.mem_of_resolve hresolve') hd' hkey

theorem rolesOf_subset (h : p.Reordered p') (hkeys : (p.types.map TypeDecl.key).Nodup) {d d' : TypeDecl}
    (hd : d.Reordered d') (hd' : d' ∈ p'.types) :
    (Context.ofProgram p).rolesOf d ⊆ (Context.ofProgram p').rolesOf d' := by
  intro role hrole
  obtain ⟨e, he, i, hi, m, hm, hkey, hmrole, hdeclared⟩ := (Context.mem_rolesOf_iff p d role).mp hrole
  obtain ⟨e', hee', he'⟩ := h.above hkeys hd hd' he
  exact (Context.mem_rolesOf_iff p' d' role).mpr
    ⟨e', he', i, hee'.mem_interfaces hi, m, hm, hkey, hmrole, (h.declares_iff m.key).mp hdeclared⟩

theorem rolesOf_perm (h : p.Reordered p') (hkeys : (p.types.map TypeDecl.key).Nodup) {d d' : TypeDecl}
    (hd : d.Reordered d') (hmem : d ∈ p.types) (hmem' : d' ∈ p'.types) :
    ((Context.ofProgram p).rolesOf d).Perm ((Context.ofProgram p').rolesOf d') := by
  rw [List.perm_ext_iff_of_nodup (Context.nodup_rolesOf _ d) (Context.nodup_rolesOf _ d')]
  intro role
  exact ⟨fun hrole => h.rolesOf_subset hkeys hd hmem' hrole,
    fun hrole => h.symm.rolesOf_subset (h.nodup_keys hkeys) hd.symm hmem hrole⟩

theorem classify_eq (h : p.Reordered p') (hkeys : (p.types.map TypeDecl.key).Nodup) {d d' : TypeDecl}
    (hd : d.Reordered d') (hmem : d ∈ p.types) (hmem' : d' ∈ p'.types) :
    (Context.ofProgram p).classify d = (Context.ofProgram p').classify d' := by
  simp only [Context.classify, (h.rolesOf_perm hkeys hd hmem hmem').mem_iff]

theorem handlerRolesOf_perm (h : p.Reordered p') (hkeys : (p.types.map TypeDecl.key).Nodup) {d d' : TypeDecl}
    (hd : d.Reordered d') (hmem : d ∈ p.types) (hmem' : d' ∈ p'.types) :
    ((Context.ofProgram p).handlerRolesOf d).Perm ((Context.ofProgram p').handlerRolesOf d') :=
  (h.rolesOf_perm hkeys hd hmem hmem').filter Role.isHandler

end Program.Reordered

end Mediation
