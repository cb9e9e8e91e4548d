import Mathlib.Data.List.Induction
import Mathlib.Data.List.Nodup
import Mediation.Proofs.Ancestors

/-!
# The walk through interfaces as a loop

The walk is defined with a bound on its rounds. Here it is the loop without one: as long as declarations wait, the
next of them is expanded (`Runs`). The loop ends on every program, cyclic inheritance included, because each identity
is visited once, and its end is what the bounded walk finds. Along the loop the references that were met stay where
they are and new ones come after them, so the list begins with the interfaces of the first declaration and holds no
reference twice.
-/

namespace Mediation

namespace Walk

variable {symbols : SymbolTable}

/-- The loop from one walk to another: it expands the given declarations one after the other, and in the end nothing
waits any more. -/
inductive Runs (symbols : SymbolTable) : Walk → List TypeDecl → Walk → Prop where
  | finished {w : Walk} (hpending : w.pending = []) : Runs symbols w [] w
  | expanded {w w' : Walk} {e : TypeDecl} {rest es : List TypeDecl} (hpending : w.pending = e :: rest)
      (hrest : Runs symbols (expand symbols { w with pending := rest } e) es w') : Runs symbols w (e :: es) w'

/-! ### The references that are met -/

theorem foldl_note_eq (refs : List TypeRef) : refs.foldl note [] = refs.eraseDups := by
  induction refs using List.reverseRecOn with
  | nil => rfl
  | append_singleton refs r ih =>
    rw [List.foldl_append, List.foldl_cons, List.foldl_nil, ih, note, List.eraseDups_append]
    by_cases hr : r ∈ refs
    · simp [hr, List.removeAll, List.mem_eraseDups]
    · simp [hr, List.removeAll, List.mem_eraseDups, List.eraseDups_cons]

theorem prefix_note (met : List TypeRef) (r : TypeRef) : met <+: note met r := by
  rw [note]
  split
  · exact List.prefix_rfl
  · exact List.prefix_append met [r]

theorem prefix_foldl_note (refs met : List TypeRef) : met <+: refs.foldl note met := by
  induction refs generalizing met with
  | nil => exact List.prefix_rfl
  | cons r refs ih => exact (prefix_note met r).trans (ih _)

theorem nodup_note {met : List TypeRef} (h : met.Nodup) (r : TypeRef) : (note met r).Nodup := by
  rw [note]
  split
  · exact h
  · rename_i hr
    apply List.nodup_append.mpr
    refine ⟨h, List.nodup_singleton r, ?_⟩
    intro a ha b hb hab
    rw [List.mem_singleton] at hb
    exact hr (hb ▸ hab ▸ ha)

theorem nodup_foldl_note (refs : List TypeRef) {met : List TypeRef} (h : met.Nodup) :
    (refs.foldl note met).Nodup := by
  induction refs generalizing met with
  | nil => exact h
  | cons r refs ih => exact ih (nodup_note h r)

theorem met_expand (w : Walk) (e : TypeDecl) : (expand symbols w e).met = e.interfaces.foldl note w.met := by
  rw [expand_eq]

/-! ### What a loop keeps -/

namespace Runs

variable {w w' : Walk} {es : List TypeDecl}

theorem pending_eq_nil (h : Runs symbols w es w') : w'.pending = [] := by
  induction h with
  | finished hpending => exact hpending
  | expanded _ _ ih => exact ih

theorem prefix_met (h : Runs symbols w es w') : w.met <+: w'.met := by
  induction h with
  | finished => exact List.prefix_rfl
  | @expanded w w' e rest es hpending _ ih =>
    rw [met_expand] at ih
    exact (prefix_foldl_note e.interfaces w.met).trans ih

theorem nodup_met (h : Runs symbols w es w') (hmet : w.met.Nodup) : w'.met.Nodup := by
  induction h with
  | finished => exact hmet
  | @expanded w w' e rest es hpending _ ih =>
    apply ih
    rw [met_expand]
    exact nodup_foldl_note e.interfaces hmet

theorem invariant (hsymbols : symbols.Coherent) {d : TypeDecl} {done : List TypeDecl} (h : Runs symbols w es w')
    (hinv : Invariant symbols d done w) : Invariant symbols d (done ++ es) w' := by
  induction h generalizing done with
  | finished => rwa [List.append_nil]
  | @expanded w w' e rest es hpending _ ih =>
    have hrest := ih (hinv.expand hsymbols hpending)
    rwa [List.append_assoc, List.singleton_append] at hrest

/-- Bounded rounds after which nothing waits are the whole loop. -/
theorem of_run {rounds : Nat} (hpending : (run symbols rounds w).pending = []) :
    ∃ es, Runs symbols w es (run symbols rounds w) := by
  induction rounds generalizing w with
  | zero => exact ⟨[], .finished hpending⟩
  | succ rounds ih =>
    rw [run] at hpending ⊢
    split at hpending
    · exact ⟨[], .finished hpending⟩
    · rename_i e rest hnext
      obtain ⟨es, hes⟩ := ih hpending
      exact ⟨e :: es, .expanded hnext hes⟩

/-- A loop that starts at a declaration expands it first, and meets its interfaces before all others. -/
theorem of_start {d : TypeDecl} (h : Runs symbols (start d) es w) :
    ∃ others, es = d :: others ∧ d.interfaces.eraseDups <+: w.met := by
  cases h with
  | finished hpending => cases hpending
  | @expanded _ _ e rest others hpending hrest =>
    obtain ⟨rfl, -⟩ := List.cons.inj hpending
    have hprefix := hrest.prefix_met
    rw [met_expand] at hprefix
    exact ⟨others, rfl, foldl_note_eq d.interfaces ▸ hprefix⟩

end Runs

end Walk

namespace Program

open Walk

/-- The loop from a declaration ends, and what it has met is what the bounded walk finds. -/
theorem exists_runs (p : Program) (d : TypeDecl) :
    ∃ es w, Runs p.symbols (.start d) es w ∧ w.met = p.symbols.interfaces d := by
  have hrounds : p.symbols.byKey.entries.length + 1
      ≤ ([] : List TypeDecl).length + (p.symbols.byKey.entries.length + 1) := by simp
  obtain ⟨-, -, hpending⟩ :=
    (invariant_start p.symbols d).run (SymbolTable.coherent_ofDecls p.types) hrounds
  obtain ⟨es, hes⟩ := Runs.of_run hpending
  exact ⟨es, _, hes, rfl⟩

theorem nodup_keys_of_runs (p : Program) {d : TypeDecl} {es : List TypeDecl} {w : Walk}
    (h : Runs p.symbols (.start d) es w) : (es.map TypeDecl.key).Nodup := by
  have hinv := h.invariant (SymbolTable.coherent_ofDecls p.types) (invariant_start p.symbols d)
  have hperm := hinv.visited_perm
  rw [h.pending_eq_nil, List.append_nil, List.nil_append] at hperm
  exact hperm.nodup hinv.visited_nodup

theorem mem_expanded_iff (p : Program) {d : TypeDecl} {es : List TypeDecl} {w : Walk}
    (h : Runs p.symbols (.start d) es w) (e : TypeDecl) : e ∈ es ↔ p.symbols.Above d e := by
  have hinv := h.invariant (SymbolTable.coherent_ofDecls p.types) (invariant_start p.symbols d)
  constructor
  · intro he
    exact hinv.above e (List.mem_append_left _ he)
  · exact hinv.mem_done_of_above (SymbolTable.coherent_ofDecls p.types) h.pending_eq_nil

/-- The loop through the interfaces of a declaration ends on every program. It expands the declaration first and then
those above it, no identity twice. The result holds no reference twice, begins with the interfaces of the declaration
itself without repeats, and consists of the interfaces of the expanded declarations; a base type is among them only if
it is somewhere declared as an interface too. -/
theorem interfaces_by_loop (p : Program) (d : TypeDecl) :
    (∃ others w, Runs p.symbols (.start d) (d :: others) w ∧ w.met = p.symbols.interfaces d
      ∧ ((d :: others).map TypeDecl.key).Nodup ∧ ∀ e, e ∈ d :: others ↔ p.symbols.Above d e)
    ∧ (p.symbols.interfaces d).Nodup
    ∧ d.interfaces.eraseDups <+: p.symbols.interfaces d
    ∧ (∀ r, r ∈ p.symbols.interfaces d ↔ ∃ e, p.symbols.Above d e ∧ r ∈ e.interfaces)
    ∧ ∀ e base, p.symbols.Above d e → e.baseType = some base → base ∈ p.symbols.interfaces d →
      ∃ e', p.symbols.Above d e' ∧ base ∈ e'.interfaces := by
  have hmem : ∀ r, r ∈ p.symbols.interfaces d ↔ ∃ e, p.symbols.Above d e ∧ r ∈ e.interfaces :=
    SymbolTable.mem_interfaces_iff p.types d
  obtain ⟨es, w, hruns, hmet⟩ := p.exists_runs d
  obtain ⟨others, rfl, hprefix⟩ := hruns.of_start
  refine ⟨⟨others, w, hruns, hmet, p.nodup_keys_of_runs hruns, p.mem_expanded_iff hruns⟩, ?_, ?_, hmem, ?_⟩
  · rw [← hmet]
    exact hruns.nodup_met List.nodup_nil
  · rw [← hmet]
    exact hprefix
  · intro e base _ _ hbase
    exact (hmem base).mp hbase

end Program

end Mediation
