import Mathlib.Data.List.Perm.Basic
import Mediation.Proofs.Roles
import Mediation.Proofs.Suite

/-!
# Names are judged once

Two checkers look at the names of declarations: one asks for the suffix of the role that decides, the other for the
common suffix of handlers of several families. Each tests on its own whether a declaration is concrete and a handler,
one by the role and the other by the families. The two tests agree because handlers come first in the order of
priority, and so each name is judged by one rule at most. Whether a handler is public is judged apart from its name.
-/

namespace Mediation

/-! ### Handlers and families -/

namespace Context

variable (c : Context) (d : TypeDecl)

/-- A declaration with handler roles of two families. -/
def IsMixed (c : Context) (d : TypeDecl) : Prop := ∃ a ∈ c.handlerRolesOf d, ∃ b ∈ c.handlerRolesOf d, a ≠ b

instance : Decidable (c.IsMixed d) := inferInstanceAs (Decidable (∃ a ∈ _, ∃ b ∈ _, a ≠ b))

theorem nodup_handlerRolesOf : (c.handlerRolesOf d).Nodup := (c.nodup_rolesOf d).filter _

theorem isMixed_iff_one_lt_length : c.IsMixed d ↔ 1 < (c.handlerRolesOf d).length := by
  have hnodup := c.nodup_handlerRolesOf d
  rw [IsMixed]
  cases hroles : c.handlerRolesOf d with
  | nil => simp
  | cons a rest =>
    cases rest with
    | nil => simp
    | cons b rest =>
      rw [hroles, List.nodup_cons] at hnodup
      have hne : a ≠ b := fun hab => hnodup.1 (hab ▸ List.mem_cons_self)
      exact iff_of_true ⟨a, by simp, b, by simp, hne⟩ (by simp)

theorem mem_handlerRolesOf (role : Role) :
    role ∈ c.handlerRolesOf d ↔ role ∈ c.rolesOf d ∧ role.isHandler = true :=
  List.mem_filter

/-- Handlers come first in the order of priority, so a declaration with a handler role is judged as a handler. -/
theorem isHandler_classify_iff : (c.classify d).isHandler = true ↔ c.handlerRolesOf d ≠ [] := by
  have hpriority : Role.priority = Role.priority.filter Role.isHandler ++ Role.priority.filter (!·.isHandler) := by
    decide
  constructor
  · intro hhandler
    rw [classify] at hhandler
    cases hfind : Role.priority.find? fun role => role ∈ c.rolesOf d with
    | none => simp [hfind, Role.isHandler] at hhandler
    | some role =>
      rw [hfind] at hhandler
      have hmem : role ∈ c.rolesOf d := by simpa using List.find?_some hfind
      exact List.ne_nil_of_mem ((c.mem_handlerRolesOf d role).mpr ⟨hmem, hhandler⟩)
  · intro hne
    obtain ⟨role, hrole⟩ := List.exists_mem_of_ne_nil _ hne
    obtain ⟨hmem, hhandler⟩ := (c.mem_handlerRolesOf d role).mp hrole
    have hfirst : ((Role.priority.filter Role.isHandler).find? fun role => role ∈ c.rolesOf d).isSome = true := by
      rw [List.find?_isSome]
      refine ⟨role, ?_, by simpa using hmem⟩
      revert hhandler
      cases role <;> decide
    obtain ⟨first, hfind⟩ := Option.isSome_iff_exists.mp hfirst
    rw [classify, hpriority, List.find?_append, hfind]
    exact (List.mem_filter.mp (List.mem_of_find?_eq_some hfind)).2

end Context

/-! ### The verdict -/

namespace Context

variable (c : Context) (d : TypeDecl)

/-- The rule of a role that a name breaks: the one of its suffixes, if the name ends in none of them. -/
def suffixVerdict? (name : String) (role : Role) : Option Rule :=
  match role.suffixRule? with
  | none => none
  | some rule => if ∃ tail ∈ rule.suffixes, tail.toList <:+ name.toList then none else some rule.rule

/-- The identifier of the rule that is reported on the name of a declaration, if there is one. -/
def nameVerdict? : Option String :=
  if d.isConcrete ∧ c.IsMixed d then
    if "Handler".toList <:+ d.name.toList then none else some "GMDTR13"
  else if (c.classify d).isHandler ∧ ¬ d.isConcrete then none
  else (suffixVerdict? d.name (c.classify d)).map Rule.id

/-- A handler that can be instantiated and is visible. -/
def IsPublicHandler : Prop := d.isConcrete ∧ d.accessibility = .publicAccess ∧ c.handlerRolesOf d ≠ []

instance : Decidable (c.IsPublicHandler d) := inferInstanceAs (Decidable (_ ∧ _ ∧ _))

end Context

theorem Role.suffixRule?_eq_none_iff (role : Role) : role.suffixRule? = none ↔ role = .unclassified := by
  cases role <;> simp [Role.suffixRule?]

theorem Role.id_of_suffixRule? {role : Role} {rule : SuffixRule} (h : role.suffixRule? = some rule) :
    rule.rule.id ∈ ["GMDTR01", "GMDTR02", "GMDTR03", "GMDTR04", "GMDTR05", "GMDTR06"] := by
  cases role <;> simp only [Role.suffixRule?, Option.some.injEq, reduceCtorEq] at h <;> subst h <;> decide

/-! ### What the checkers find on a declaration -/

theorem Naming.violation?_eq (d : TypeDecl) (role : Role) :
    Naming.violation? d role
      = if role.isHandler ∧ ¬ d.isConcrete then none else Context.suffixVerdict? d.name role := by
  rw [violation?, Context.suffixVerdict?]
  cases hrule : role.suffixRule? with
  | none => simp
  | some rule =>
    have haccepts : rule.accepts d.name = true ↔ ∃ tail ∈ rule.suffixes, tail.toList <:+ d.name.toList := by
      rw [SuffixRule.accepts, List.any_eq_true]
      simp only [Text.endsWith_iff]
    change (if (role.isHandler && !d.isConcrete || rule.accepts d.name) = true then none else some rule.rule) = _
    simp only [Bool.or_eq_true, Bool.and_eq_true, haccepts, Bool.not_eq_true', Bool.not_eq_true]
    split_ifs <;> simp_all

theorem Naming.ruleIds_inspect (c : Context) (d : TypeDecl) :
    (Naming.inspect c d).map Diagnostic.ruleId
      = if d.isConcrete ∧ c.IsMixed d then []
        else (if (c.classify d).isHandler ∧ ¬ d.isConcrete then none
          else (Context.suffixVerdict? d.name (c.classify d)).map Rule.id).toList := by
  have hmixed : c.IsMixed d → (c.classify d).isHandler = true := by
    rintro ⟨role, hrole, -⟩
    exact (c.isHandler_classify_iff d).mpr (List.ne_nil_of_mem hrole)
  have hguard : ((c.classify d).isHandler && d.isConcrete && decide (1 < (c.handlerRolesOf d).length)) = true
      ↔ d.isConcrete = true ∧ c.IsMixed d := by
    rw [Bool.and_eq_true, Bool.and_eq_true, decide_eq_true_eq, ← c.isMixed_iff_one_lt_length]
    exact ⟨fun h => ⟨h.1.2, h.2⟩, fun h => ⟨⟨hmixed h.2, h.1⟩, h.2⟩⟩
  rw [Naming.inspect]
  simp only [hguard, Naming.violation?_eq]
  split
  · rfl
  · split
    · rfl
    · cases Context.suffixVerdict? d.name (c.classify d) <;> rfl

theorem HandlerDeclaration.ruleIds_inspect (c : Context) (d : TypeDecl) :
    (HandlerDeclaration.inspect c d).map Diagnostic.ruleId
      = (if c.IsPublicHandler d then ["GMDTR10"] else [])
        ++ if (d.isConcrete ∧ c.IsMixed d) ∧ ¬ "Handler".toList <:+ d.name.toList then ["GMDTR13"] else [] := by
  have hmixed := c.isMixed_iff_one_lt_length d
  have hsuffix : Text.endsWith d.name commonSuffix = true ↔ "Handler".toList <:+ d.name.toList :=
    Text.endsWith_iff d.name commonSuffix
  have hpublic : c.IsPublicHandler d ↔ d.isConcrete ∧ d.accessibility = .publicAccess ∧ c.handlerRolesOf d ≠ [] :=
    Iff.rfl
  simp only [inspect, hpublic, hmixed]
  cases hconcrete : d.isConcrete with
  | false => simp
  | true =>
    cases hroles : c.handlerRolesOf d with
    | nil => simp
    | cons role roles =>
      simp only [Bool.not_true, List.isEmpty_cons, Bool.or_self, Bool.false_eq_true, if_false, List.map_append,
        apply_ite (List.map Diagnostic.ruleId), true_and, ne_eq, reduceCtorEq, not_false_eq_true, and_true, ← hsuffix,
        Bool.and_eq_true, decide_eq_true_eq, Bool.not_eq_true', Bool.not_eq_true]
      rfl

/-- The two checkers together report the rule of the verdict and, apart from it, a handler that is public. -/
theorem Context.ruleIds_perm_nameVerdict? (c : Context) (d : TypeDecl) :
    ((Naming.inspect c d ++ HandlerDeclaration.inspect c d).map Diagnostic.ruleId).Perm
      ((c.nameVerdict? d).toList ++ if c.IsPublicHandler d then ["GMDTR10"] else []) := by
  rw [List.map_append, Naming.ruleIds_inspect, HandlerDeclaration.ruleIds_inspect, nameVerdict?]
  by_cases hmixed : d.isConcrete ∧ c.IsMixed d
  · -- The name is left to the rule about mixed handlers, which comes after the one about visibility.
    rw [if_pos hmixed, if_pos hmixed, List.nil_append]
    refine List.perm_append_comm.trans (.of_eq ?_)
    congr 1
    by_cases hsuffix : "Handler".toList <:+ d.name.toList
    · rw [if_neg fun h => h.2 hsuffix, if_pos hsuffix]
      rfl
    · rw [if_pos ⟨hmixed, hsuffix⟩, if_neg hsuffix]
      rfl
  · simp only [hmixed, false_and, if_false, List.append_nil]
    exact .refl _

/-- What a checker finds on a declaration of a program: nothing unless it comes from source. -/
def Checker.findingsOn (c : Checker) (context : Context) (d : TypeDecl) : List Diagnostic :=
  match c.subject with
  | .declarations inspect => if d.inSource then (inspect context d).toOption.getD [] else []
  | .invocations _ => []

theorem Checker.findings_of_declarations {c : Checker} (hc : c.Dependable)
    {inspect : Inspection TypeDecl} (hsubject : c.subject = .declarations inspect) (workers : Int) (context : Context) :
    c.findings workers context = .ok (context.program.types.flatMap (c.findingsOn context)) := by
  rw [hc.findings_eq, rawFindings, hsubject]
  change Except.ok ((context.program.types.filter (·.inSource)).flatMap _) = _
  congr 1
  induction context.program.types with
  | nil => rfl
  | cons d types ih =>
    rw [List.flatMap_cons, List.filter_cons, ← ih, findingsOn, hsubject]
    cases d.inSource <;> rfl

/-- The two checkers of declarations report on each declaration from source the rule of its verdict and, apart from
it, a handler that is public; on other declarations they report nothing. -/
theorem names_judged_once (p : Program) :
    (∀ workers, ∀ c ∈ [Naming.checker, HandlerDeclaration.checker],
      c.findings workers (.ofProgram p) = .ok (p.types.flatMap (c.findingsOn (.ofProgram p))))
    ∧ (∀ d : TypeDecl,
      ((Naming.checker.findingsOn (.ofProgram p) d ++ HandlerDeclaration.checker.findingsOn (.ofProgram p) d).map
          Diagnostic.ruleId).Perm
        (if d.inSource then
          ((Context.ofProgram p).nameVerdict? d).toList
            ++ if (Context.ofProgram p).IsPublicHandler d then ["GMDTR10"] else []
        else []))
    ∧ ∀ role : Role, (role.suffixRule? = none ↔ role = .unclassified)
      ∧ ∀ rule ∈ role.suffixRule?,
        rule.rule.id ∈ ["GMDTR01", "GMDTR02", "GMDTR03", "GMDTR04", "GMDTR05", "GMDTR06"] := by
  refine ⟨fun workers c hc => ?_, fun d => ?_,
    fun role => ⟨role.suffixRule?_eq_none_iff, fun rule hrule => Role.id_of_suffixRule? hrule⟩⟩
  · simp only [List.mem_cons, List.not_mem_nil, or_false] at hc
    rcases hc with rfl | rfl
    · exact Checker.findings_of_declarations (Registry.dependable_of_mem_suite (by simp [Registry.suite])) rfl _ _
    · exact Checker.findings_of_declarations (Registry.dependable_of_mem_suite (by simp [Registry.suite])) rfl _ _
  · cases hsource : d.inSource with
    | false => simp [Checker.findingsOn, Naming.checker, HandlerDeclaration.checker, hsource]
    | true =>
      have hnaming : Naming.checker.findingsOn (.ofProgram p) d = Naming.inspect (.ofProgram p) d := if_pos hsource
      have hhandlers : HandlerDeclaration.checker.findingsOn (.ofProgram p) d
          = HandlerDeclaration.inspect (.ofProgram p) d := if_pos hsource
      rw [hnaming, hhandlers, if_pos rfl]
      exact (Context.ofProgram p).ruleIds_perm_nameVerdict? d

end Mediation
