import Mathlib.Data.List.Perm.Subperm
import Mediation.Proofs.Lookup
import Mediation.Symbol.Interfaces

/-!
# The declarations above a declaration

The walk through the interfaces of a declaration against what it is meant to find: the interfaces declared on the
declarations that can be reached through base types and interfaces. The walk goes by identities, so a second
declaration with the identity of the first one is never entered, and the paths leave it out too.

One expansion is split into what it enters and what it meets (`expand_eq`). The invariant of the walk speaks about
the declarations expanded so far, which the walk itself does not keep.
-/

namespace Mediation

/-- The references of a declaration to those above it: its base type and its interfaces. -/
def TypeDecl.parents (d : TypeDecl) : List TypeRef := d.baseType.toList ++ d.interfaces

namespace SymbolTable

variable (symbols : SymbolTable)

/-- The declaration `d` and those above it, along paths that leave out other declarations with the identity of
`d`. -/
inductive Above (d : TypeDecl) : TypeDecl → Prop where
  | self : Above d d
  | parent {e e' : TypeDecl} (he : Above d e) (r : TypeRef) (hr : r ∈ e.parents)
      (hresolve : symbols.resolve r = some e') (hkey : e'.key = d.key → e' = d) : Above d e'

/-- Whatever a reference means has been entered under its own identity. -/
def Coherent : Prop := ∀ r e, symbols.resolve r = some e → symbols.find? e.key = some e

theorem coherent_ofDecls (decls : List TypeDecl) : (ofDecls decls).Coherent := fun _ _ h => find?_key_of_resolve h

end SymbolTable

namespace Walk

variable {symbols : SymbolTable}

/-! ### One expansion -/

/-- A list of references with one more, unless it is there already. -/
def note (met : List TypeRef) (r : TypeRef) : List TypeRef := if r ∈ met then met else met ++ [r]

theorem meet_eq (w : Walk) (r : TypeRef) : w.meet r = { w with met := note w.met r } := by
  rw [meet, note]
  split <;> rfl

theorem enter_withMet (w : Walk) (met : List TypeRef) (r : TypeRef) :
    enter symbols { w with met } r = { enter symbols w r with met } := by
  rw [enter, enter]
  split
  · rfl
  · split <;> rfl

theorem foldl_meet_enter (refs : List TypeRef) (w : Walk) :
    refs.foldl (fun w r => (w.meet r).enter symbols r) w
      = { refs.foldl (enter symbols) w with met := refs.foldl note w.met } := by
  have henter : ∀ (refs : List TypeRef) (w : Walk) (met : List TypeRef),
      refs.foldl (enter symbols) { w with met } = { refs.foldl (enter symbols) w with met } := by
    intro refs
    induction refs with
    | nil => intro w met; rfl
    | cons r refs ih => intro w met; rw [List.foldl_cons, enter_withMet, ih, List.foldl_cons]
  induction refs generalizing w with
  | nil => rfl
  | cons r refs ih => rw [List.foldl_cons, ih, meet_eq, enter_withMet, henter, List.foldl_cons, List.foldl_cons]

theorem met_enter (w : Walk) (r : TypeRef) : (enter symbols w r).met = w.met := by
  rw [enter]
  split
  · rfl
  · split <;> rfl

theorem met_foldl_enter (refs : List TypeRef) (w : Walk) : (refs.foldl (enter symbols) w).met = w.met := by
  induction refs generalizing w with
  | nil => rfl
  | cons r refs ih => rw [List.foldl_cons, ih, met_enter]

/-- An expansion enters all references to declarations above, and meets the interfaces among them. -/
theorem expand_eq (w : Walk) (d : TypeDecl) :
    expand symbols w d
      = { d.parents.foldl (enter symbols) w with met := d.interfaces.foldl note w.met } := by
  rw [expand, foldl_meet_enter, met_foldl_enter, TypeDecl.parents, List.foldl_append]

theorem mem_foldl_note (refs met : List TypeRef) (r : TypeRef) :
    r ∈ refs.foldl note met ↔ r ∈ met ∨ r ∈ refs := by
  induction refs generalizing met with
  | nil => simp
  | cons first refs ih =>
    have hnote : r ∈ note met first ↔ r ∈ met ∨ r = first := by
      rw [note]
      split
      · rename_i hfirst
        exact ⟨Or.inl, fun h => h.elim id fun heq => heq ▸ hfirst⟩
      · simp
    rw [List.foldl_cons, ih, hnote, List.mem_cons, or_assoc]

/-! ### What is entered -/

theorem subset_visited_enter (w : Walk) (r : TypeRef) : w.visited ⊆ (enter symbols w r).visited := by
  rw [enter]
  split
  · exact List.Subset.refl _
  · split
    · exact List.Subset.refl _
    · exact List.subset_cons_self _ _

theorem subset_visited_foldl_enter (refs : List TypeRef) (w : Walk) :
    w.visited ⊆ (refs.foldl (enter symbols) w).visited := by
  induction refs generalizing w with
  | nil => exact List.Subset.refl _
  | cons r refs ih => exact List.Subset.trans (subset_visited_enter w r) (ih _)

theorem key_mem_visited_enter {w : Walk} {r : TypeRef} {e : TypeDecl} (h : symbols.resolve r = some e) :
    e.key ∈ (enter symbols w r).visited := by
  rw [enter, h]
  dsimp only
  split
  · assumption
  · exact List.mem_cons_self

theorem key_mem_visited_foldl_enter {refs : List TypeRef} {w : Walk} {r : TypeRef} (hr : r ∈ refs) {e : TypeDecl}
    (h : symbols.resolve r = some e) : e.key ∈ (refs.foldl (enter symbols) w).visited := by
  induction refs generalizing w with
  | nil => simp at hr
  | cons first refs ih =>
    rcases List.mem_cons.mp hr with rfl | hr
    · exact subset_visited_foldl_enter refs _ (key_mem_visited_enter h)
    · exact ih hr

/-! ### The invariant -/

/-- What holds of a walk from `d` after the declarations in `done` were expanded: they and the waiting ones are
above `d`, known by their identities, and exactly the ones visited. -/
structure Reached (symbols : SymbolTable) (d : TypeDecl) (done : List TypeDecl) (w : Walk) : Prop where
  start : d ∈ done ++ w.pending
  above : ∀ e ∈ done ++ w.pending, symbols.Above d e
  known : ∀ e ∈ done ++ w.pending, e = d ∨ symbols.find? e.key = some e
  visited_perm : w.visited.Perm ((done ++ w.pending).map TypeDecl.key)
  visited_nodup : w.visited.Nodup

/-- The invariant between two expansions: the expanded declarations have been followed, and their interfaces are
the ones met. -/
structure Invariant (symbols : SymbolTable) (d : TypeDecl) (done : List TypeDecl) (w : Walk) : Prop
    extends Reached symbols d done w where
  followed : ∀ e ∈ done, ∀ r ∈ e.parents, ∀ e', symbols.resolve r = some e' → e'.key ∈ w.visited
  mem_met_iff : ∀ r, r ∈ w.met ↔ ∃ e ∈ done, r ∈ e.interfaces

theorem invariant_start (symbols : SymbolTable) (d : TypeDecl) : Invariant symbols d [] (start d) where
  start := by simp [start]
  above e he := by
    obtain rfl : e = d := by simpa [start] using he
    exact .self
  known e he := Or.inl (by simpa [start] using he)
  visited_perm := by simp [start]
  visited_nodup := by simp [start]
  followed e he := by simp at he
  mem_met_iff r := by simp [start]

variable {d : TypeDecl} {done : List TypeDecl} {w : Walk}

theorem Reached.enter (hsymbols : symbols.Coherent) (h : Reached symbols d done w) {r : TypeRef}
    (hr : ∃ e ∈ done, r ∈ e.parents) : Reached symbols d done (enter symbols w r) := by
  rw [Walk.enter]
  split
  · exact h
  · rename_i e' hresolve
    split
    · exact h
    · rename_i hnew
      obtain ⟨e, he, hr⟩ := hr
      -- The identity of `d` has been visited from the start, so what is entered now has another one.
      have hkey : e'.key ≠ d.key := by
        intro heq
        apply hnew
        rw [heq, h.visited_perm.mem_iff]
        exact List.mem_map_of_mem h.start
      have habove : symbols.Above d e' :=
        .parent (h.above e (List.mem_append_left _ he)) r hr hresolve fun heq => absurd heq hkey
      have hmem : ∀ a, a ∈ done ++ e' :: w.pending ↔ a = e' ∨ a ∈ done ++ w.pending := by
        intro a
        rw [List.perm_middle.mem_iff, List.mem_cons]
      refine ⟨(hmem d).mpr (Or.inr h.start), fun a ha => ?_, fun a ha => ?_, ?_, ?_⟩
      · rcases (hmem a).mp ha with rfl | ha
        · exact habove
        · exact h.above a ha
      · rcases (hmem a).mp ha with rfl | ha
        · exact Or.inr (hsymbols r a hresolve)
        · exact h.known a ha
      · have hperm : ((done ++ e' :: w.pending).map TypeDecl.key).Perm
            (e'.key :: (done ++ w.pending).map TypeDecl.key) := List.perm_middle.map TypeDecl.key
        exact (h.visited_perm.cons e'.key).trans hperm.symm
      · exact List.nodup_cons.mpr ⟨hnew, h.visited_nodup⟩

theorem Reached.foldl_enter (hsymbols : symbols.Coherent) (h : Reached symbols d done w) {refs : List TypeRef}
    (hrefs : ∀ r ∈ refs, ∃ e ∈ done, r ∈ e.parents) :
    Reached symbols d done (refs.foldl (Walk.enter symbols) w) := by
  induction refs generalizing w with
  | nil => exact h
  | cons r refs ih =>
    exact ih (h.enter hsymbols (hrefs r List.mem_cons_self)) fun r' hr' => hrefs r' (List.mem_cons_of_mem r hr')

/-- Taking a declaration off the stack changes nothing but on which side of the list it stands. -/
theorem Reached.pop {e : TypeDecl} {rest : List TypeDecl} (h : Reached symbols d done w)
    (hpending : w.pending = e :: rest) : Reached symbols d (done ++ [e]) { w with pending := rest } := by
  have happend : done ++ [e] ++ rest = done ++ w.pending := by
    rw [hpending, List.append_assoc, List.singleton_append]
  refine ⟨?_, ?_, ?_, ?_, h.visited_nodup⟩
  · exact happend ▸ h.start
  · exact happend ▸ h.above
  · exact happend ▸ h.known
  · exact happend ▸ h.visited_perm

theorem Invariant.expand (hsymbols : symbols.Coherent) {e : TypeDecl} {rest : List TypeDecl}
    (h : Invariant symbols d done w) (hpending : w.pending = e :: rest) :
    Invariant symbols d (done ++ [e]) (Walk.expand symbols { w with pending := rest } e) := by
  have hparents : ∀ r ∈ e.parents, ∃ e' ∈ done ++ [e], r ∈ e'.parents :=
    fun r hr => ⟨e, List.mem_append_right _ (List.mem_singleton_self e), hr⟩
  have hreached := (h.toReached.pop hpending).foldl_enter hsymbols hparents
  rw [expand_eq]
  refine ⟨⟨hreached.start, hreached.above, hreached.known, hreached.visited_perm, hreached.visited_nodup⟩, ?_, ?_⟩
  · intro e' he' r hr e'' hresolve
    rcases List.mem_append.mp he' with he' | he'
    · exact subset_visited_foldl_enter e.parents _ (h.followed e' he' r hr e'' hresolve)
    · obtain rfl := List.mem_singleton.mp he'
      exact key_mem_visited_foldl_enter hr hresolve
  · intro r
    rw [mem_foldl_note, h.mem_met_iff]
    simp only [List.mem_append, List.mem_singleton, or_and_right, exists_or, exists_eq_left]

/-! ### The end of the walk -/

/-- Every identity that is visited belongs to `d` or to the table. -/
theorem Reached.length_le (h : Reached symbols d done w) :
    (done ++ w.pending).length ≤ symbols.byKey.entries.length + 1 := by
  have hsubset : w.visited ⊆ d.key :: symbols.byKey.keys := by
    intro key hkey
    obtain ⟨e, he, rfl⟩ := List.mem_map.mp (h.visited_perm.mem_iff.mp hkey)
    rcases h.known e he with rfl | hfind
    · exact List.mem_cons_self
    · have hentry := (Table.get?_eq_some_iff symbols.byKey e.key e).mp hfind
      exact List.mem_cons_of_mem _ (List.mem_map.mpr ⟨_, hentry, rfl⟩)
  have hlength := (h.visited_nodup.subperm hsubset).length_le
  rw [h.visited_perm.length_eq, List.length_map] at hlength
  simpa [Table.keys] using hlength

theorem Invariant.run (hsymbols : symbols.Coherent) {rounds : Nat} (h : Invariant symbols d done w)
    (hrounds : symbols.byKey.entries.length + 1 ≤ done.length + rounds) :
    ∃ done', Invariant symbols d done' (Walk.run symbols rounds w) ∧ (Walk.run symbols rounds w).pending = [] := by
  induction rounds generalizing done w with
  | zero =>
    have hlength := h.length_le
    rw [List.length_append] at hlength
    have hpending : w.pending = [] := List.eq_nil_of_length_eq_zero (by omega)
    exact ⟨done, h, hpending⟩
  | succ rounds ih =>
    rw [Walk.run]
    split
    · rename_i hpending
      exact ⟨done, h, hpending⟩
    · rename_i e rest hpending
      apply ih (h.expand hsymbols hpending)
      rw [List.length_append, List.length_singleton]
      omega

/-- When nothing waits any more, everything above has been expanded. -/
theorem Invariant.mem_done_of_above (hsymbols : symbols.Coherent) (h : Invariant symbols d done w)
    (hpending : w.pending = []) {e : TypeDecl} (he : symbols.Above d e) : e ∈ done := by
  have hdone : done ++ w.pending = done := by rw [hpending, List.append_nil]
  induction he with
  | self => exact hdone ▸ h.start
  | @parent e e' _ r hr hresolve hkey ih =>
    obtain ⟨e'', he'', hsame⟩ := List.mem_map.mp (h.visited_perm.mem_iff.mp (h.followed e ih r hr e' hresolve))
    rw [hdone] at he''
    rcases h.known e'' (hdone.symm ▸ he'') with rfl | hfind
    · rwa [hkey hsame.symm]
    · rw [hsame, hsymbols r e' hresolve] at hfind
      rwa [Option.some.inj hfind]

end Walk

namespace SymbolTable

/-- The interfaces of a declaration are those declared on it or on a declaration above it. -/
theorem mem_interfaces_iff (decls : List TypeDecl) (d : TypeDecl) (r : TypeRef) :
    r ∈ (ofDecls decls).interfaces d ↔ ∃ e, (ofDecls decls).Above d e ∧ r ∈ e.interfaces := by
  have hsymbols := coherent_ofDecls decls
  have hrounds : (ofDecls decls).byKey.entries.length + 1
      ≤ ([] : List TypeDecl).length + ((ofDecls decls).byKey.entries.length + 1) := by simp
  obtain ⟨done, hinv, hpending⟩ := (Walk.invariant_start (ofDecls decls) d).run hsymbols hrounds
  rw [interfaces, hinv.mem_met_iff]
  constructor
  · rintro ⟨e, he, hr⟩
    exact ⟨e, hinv.above e (List.mem_append_left _ he), hr⟩
  · rintro ⟨e, he, hr⟩
    exact ⟨e, hinv.mem_done_of_above hsymbols hpending he, hr⟩

end SymbolTable

end Mediation
