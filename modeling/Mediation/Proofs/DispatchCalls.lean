import Mathlib.Data.List.Sublists
import Mediation.Proofs.ReferenceIdentity
import Mediation.Proofs.Suite

/-!
# Calls of the dispatcher and what is reported on them

Which methods count as dispatch is said through their names without the asynchronous suffix, and whether the suffix is
missing is asked apart from that. Together the two questions accept six names and no others. A call counts if it goes to
one of these methods, with two parameters, of a dispatcher type, in a program that declares all of these types. On such
a call three rules are judged, each by an aspect of the call of its own, and each is reported at most once.
-/

namespace Mediation

/-! ### Names of methods -/

namespace Dispatch

section Names

variable {base : String}

theorem baseName_append (hbase : base ≠ "") : baseName (base ++ Library.asyncSuffix) = base := by
  have hne : base ++ Library.asyncSuffix ≠ Library.asyncSuffix := by
    intro h
    apply hbase
    rw [← String.toList_inj] at h ⊢
    rw [String.toList_append, List.append_left_eq_self] at h
    exact h
  rw [baseName, Text.endsWith_append, decide_eq_true hne, Bool.and_self, if_pos rfl, Text.dropLast_append]

/-- A name leads to a base without the suffix by being the base, or by being the base with the suffix. -/
theorem baseName_eq_iff (hbase : base ≠ "") (hplain : Text.endsWith base Library.asyncSuffix = false) (name : String) :
    baseName name = base ↔ name = base ∨ name = base ++ Library.asyncSuffix := by
  constructor
  · intro h
    rw [baseName] at h
    split at h
    · rename_i hsuffix
      rw [Bool.and_eq_true] at hsuffix
      right
      rw [← h, Text.dropLast_append_of_endsWith hsuffix.1]
    · exact Or.inl h
  · rintro (rfl | rfl)
    · rw [baseName, hplain, Bool.false_and, if_neg Bool.false_ne_true]
    · exact baseName_append hbase

/-- Of the two names that lead to a base, only the base itself lacks the suffix. -/
theorem baseName_eq_and_lacks_iff (hbase : base ≠ "") (hplain : Text.endsWith base Library.asyncSuffix = false)
    (name : String) : baseName name = base ∧ Text.endsWith name Library.asyncSuffix = false ↔ name = base := by
  rw [baseName_eq_iff hbase hplain]
  constructor
  · rintro ⟨rfl | rfl, hlacks⟩
    · rfl
    · rw [Text.endsWith_append] at hlacks
      cases hlacks
  · rintro rfl
    exact ⟨Or.inl rfl, hplain⟩

end Names

/-- The names of dispatch methods. -/
def methodNames : List String :=
  ["Send", "SendAsync", "Publish", "PublishAsync", "CreateStream", "CreateStreamAsync"]

theorem baseName_mem_dispatchMethods_iff (name : String) :
    baseName name ∈ Library.dispatchMethods ↔ name ∈ methodNames := by
  have hsend := baseName_eq_iff (show "Send" ≠ "" by decide) (by decide) name
  have hpublish := baseName_eq_iff (show "Publish" ≠ "" by decide) (by decide) name
  have hstream := baseName_eq_iff (show "CreateStream" ≠ "" by decide) (by decide) name
  simp only [Library.dispatchMethods, methodNames, List.mem_cons, List.not_mem_nil, or_false, hsend, hpublish, hstream,
    or_assoc]
  rfl

theorem baseName_mem_asyncMethods_iff (name : String) :
    baseName name ∈ Library.asyncMethods ∧ Text.endsWith name Library.asyncSuffix = false
      ↔ name ∈ ["Send", "Publish"] := by
  have hsend := baseName_eq_and_lacks_iff (show "Send" ≠ "" by decide) (by decide) name
  have hpublish := baseName_eq_and_lacks_iff (show "Publish" ≠ "" by decide) (by decide) name
  simp only [Library.asyncMethods, List.mem_cons, List.not_mem_nil, or_false, or_and_right, hsend, hpublish]

end Dispatch

/-! ### Dispatcher types -/

namespace Library

/-- The metadata names of the dispatcher types. -/
def dispatcherNames : List String :=
  ["MediatR.Mediator", "MediatR.IMediator", "MediatR.ISender", "MediatR.IPublisher"]

theorem mem_dispatchers_iff (key : DefinitionKey) :
    key ∈ dispatchers ↔ key.metadataName ∈ dispatcherNames ∧ key.assembly = "MediatR" := by
  have hmap : dispatchers = dispatcherNames.map fun name => ⟨name, "MediatR"⟩ := rfl
  rw [hmap, List.mem_map]
  constructor
  · rintro ⟨name, hname, rfl⟩
    exact ⟨hname, rfl⟩
  · rintro ⟨hname, hassembly⟩
    exact ⟨key.metadataName, hname, by rw [← hassembly]⟩

end Library

namespace Program

/-- A program that declares all dispatcher types. -/
def DeclaresDispatcher (p : Program) : Prop :=
  ∀ name ∈ Library.dispatcherNames, ∃ d ∈ p.types, d.metadataName = name ∧ d.assembly = "MediatR"

theorem hasDispatcher_catalog_iff (p : Program) : p.catalog.hasDispatcher = true ↔ p.DeclaresDispatcher := by
  have hdeclared : p.catalog.hasDispatcher = true ↔ ∀ key ∈ Library.dispatchers, ∃ d ∈ p.types, d.key = key := by
    change ((Library.dispatchers.filter fun key => (p.symbols.find? key).isSome).length
      == Library.dispatchers.length) = true ↔ _
    rw [beq_iff_eq, List.length_filter_eq_length_iff]
    apply forall₂_congr
    intro key _
    exact SymbolTable.isSome_find?_iff key
  rw [hdeclared, DeclaresDispatcher]
  constructor
  · intro h name hname
    obtain ⟨d, hd, hkey⟩ := h ⟨name, "MediatR"⟩ ((Library.mem_dispatchers_iff _).mpr ⟨hname, rfl⟩)
    exact ⟨d, hd, congrArg DefinitionKey.metadataName hkey, congrArg DefinitionKey.assembly hkey⟩
  · intro h key hkey
    obtain ⟨hname, hassembly⟩ := (Library.mem_dispatchers_iff key).mp hkey
    obtain ⟨d, hd, hname', hassembly'⟩ := h key.metadataName hname
    exact ⟨d, hd, by rw [TypeDecl.key, hname', hassembly', ← hassembly]⟩

end Program

/-! ### Calls -/

namespace Dispatch

/-- A call of the dispatcher in a program. -/
structure Dispatches (p : Program) (call : Invocation) : Prop where
  declared : p.DeclaresDispatcher
  typeName : call.target.containingType.metadataName ∈ Library.dispatcherNames
  assembly : call.target.containingType.assembly = "MediatR"
  parameters : call.target.parameters.length = 2
  method : call.target.name ∈ methodNames

/-- A call with two arguments of which the second is a default value. -/
def LeavesToken (call : Invocation) : Prop :=
  ∃ first token, call.arguments = [first, token] ∧ token.kind = .defaultValue

variable {p : Program} {call : Invocation}

theorem usesDefaultToken_iff : usesDefaultToken call = true ↔ LeavesToken call := by
  rw [usesDefaultToken, LeavesToken]
  split
  · rename_i first token harguments
    simp [harguments]
  · rename_i hshape
    refine iff_of_false Bool.false_ne_true ?_
    rintro ⟨first, token, harguments, -⟩
    exact hshape first token harguments

theorem isDispatch_iff : isDispatch p.catalog call = true ↔ Dispatches p call := by
  rw [isDispatch, Bool.and_eq_true, Bool.and_eq_true, Bool.and_eq_true, decide_eq_true_eq, beq_iff_eq,
    p.hasDispatcher_catalog_iff, Catalog.isDispatcher_iff, p.mem_dispatchers_catalog, Library.mem_dispatchers_iff,
    baseName_mem_dispatchMethods_iff]
  constructor
  · rintro ⟨⟨⟨hdeclared, hparameters⟩, ⟨htype, hassembly⟩, -⟩, hmethod⟩
    exact ⟨hdeclared, htype, hassembly, hparameters, hmethod⟩
  · intro h
    obtain ⟨d, hd, hname, hassembly⟩ := h.declared _ h.typeName
    refine ⟨⟨⟨h.declared, h.parameters⟩, ⟨h.typeName, h.assembly⟩, d, hd, ?_⟩, h.method⟩
    rw [TypeDecl.key, TypeRef.key, hname, hassembly, h.assembly]

theorem exists_inspect?_iff : (∃ f, inspect? p.catalog call = some f) ↔ Dispatches p call := by
  rw [← isDispatch_iff, inspect?]
  split
  · rename_i hdispatch
    exact iff_of_true ⟨_, rfl⟩ hdispatch
  · rename_i hdispatch
    exact iff_of_false (by simp) hdispatch

theorem inspect_eq_nil_of_not_dispatches (h : ¬ Dispatches p call) : inspect (.ofProgram p) call = [] := by
  rw [← isDispatch_iff, Bool.not_eq_true] at h
  simp [inspect, inspect?, h]

/-- The rules that a call of the dispatcher breaks. -/
def brokenRules (call : Invocation) : List Rule :=
  (if call.target.name ∈ ["Send", "Publish"] then [.asyncDispatch] else [])
    ++ (if call.target.typeArguments = [] then [.genericDispatch] else [])
    ++ if usesDefaultToken call = true then [.cancellationToken] else []

theorem inspect_of_dispatches (h : Dispatches p call) :
    inspect (.ofProgram p) call
      = (brokenRules call).map fun rule =>
        .ofRule rule call.span [] checkerName [("method", .str call.target.name)] := by
  have hasync := baseName_mem_asyncMethods_iff call.target.name
  rw [← isDispatch_iff] at h
  rw [inspect, inspect?, Context.catalog_ofProgram, if_pos h]
  simp only [DispatchFinding.rules, brokenRules, Bool.and_eq_true, decide_eq_true_eq, Bool.not_eq_true', hasync,
    Method.isGeneric, Bool.not_not, List.isEmpty_iff]

theorem ruleIds_inspect (h : Dispatches p call) :
    (inspect (.ofProgram p) call).map (·.ruleId) = (brokenRules call).map Rule.id := by
  rw [inspect_of_dispatches h, List.map_map]
  rfl

theorem mem_ruleIds_brokenRules_iff (id : String) :
    id ∈ (brokenRules call).map Rule.id
      ↔ id = "GMDTR12" ∧ call.target.name ∈ ["Send", "Publish"]
        ∨ id = "GMDTR07" ∧ call.target.typeArguments = []
        ∨ id = "GMDTR08" ∧ LeavesToken call := by
  rw [← usesDefaultToken_iff, brokenRules, List.map_append, List.map_append, List.mem_append, List.mem_append, or_assoc]
  refine or_congr ?_ (or_congr ?_ ?_)
  all_goals
    split
    · rename_i h
      rw [List.map_singleton, List.mem_singleton, and_iff_left h]
      rfl
    · rename_i h
      simp [h]

theorem nodup_ruleIds_brokenRules (call : Invocation) : ((brokenRules call).map Rule.id).Nodup := by
  have hall : (["GMDTR12", "GMDTR07", "GMDTR08"] : List String).Nodup := by decide
  refine hall.sublist ?_
  rw [brokenRules, List.map_append, List.map_append]
  refine ((?_ : List.Sublist _ ["GMDTR12"]).append (?_ : List.Sublist _ ["GMDTR07"])).append
    (?_ : List.Sublist _ ["GMDTR08"])
  all_goals
    split
    · exact .refl _
    · exact List.nil_sublist _

theorem findings_checker (p : Program) (workers : Int) :
    checker.findings workers (.ofProgram p) = .ok (p.invocations.flatMap (inspect (.ofProgram p))) := by
  have hsuite : checker ∈ Registry.suite := by simp [Registry.suite]
  rw [(Registry.dependable_of_mem_suite hsuite).findings_eq]
  rfl

/-! ### Independence of the rules -/

/-- A call of a dispatch method, with or without what each of the rules asks for. -/
def sampleCall (plain bare tokenless : Bool) : Invocation where
  target := {
    name := if plain then "Send" else "SendAsync"
    containingType := { name := "ISender", scope := "MediatR", assembly := "MediatR" }
    parameters := [{ name := "request" }, { name := "cancellationToken" }]
    typeArguments := if bare then [] else [{ name := "Order" }] }
  arguments := [{ parameter := "request" },
    { parameter := "cancellationToken", kind := if tokenless then .defaultValue else .explicit }]

theorem dispatches_sampleCall (h : p.DeclaresDispatcher) (plain bare tokenless : Bool) :
    Dispatches p (sampleCall plain bare tokenless) where
  declared := h
  typeName := show "MediatR.ISender" ∈ Library.dispatcherNames by decide
  assembly := rfl
  parameters := rfl
  method := by
    cases plain with
    | true => exact show "Send" ∈ methodNames by decide
    | false => exact show "SendAsync" ∈ methodNames by decide

theorem exists_brokenRules_sampleCall {ids : List String} (h : ids.Sublist ["GMDTR12", "GMDTR07", "GMDTR08"]) :
    ∃ plain bare tokenless, (brokenRules (sampleCall plain bare tokenless)).map Rule.id = ids := by
  have hall : ∀ ids ∈ (["GMDTR12", "GMDTR07", "GMDTR08"] : List String).sublists,
      ∃ plain bare tokenless, (brokenRules (sampleCall plain bare tokenless)).map Rule.id = ids := by
    decide +kernel
  exact hall ids (List.mem_sublists.mpr h)

/-! ### What is reported -/

/-- Calls are judged by what they are. There is a finding exactly on the calls of the dispatcher, and the checker
reports on no other call. On these it reports, where the call stands, each rule at most once and exactly if the call
breaks it. Every selection of the three rules is that of some call. -/
theorem dispatch_calls_judged (p : Program) (call : Invocation) :
    ((∃ f, inspect? p.catalog call = some f) ↔ Dispatches p call)
      ∧ (∀ id, id ∈ (inspect (.ofProgram p) call).map (·.ruleId)
        ↔ Dispatches p call
          ∧ (id = "GMDTR12" ∧ call.target.name ∈ ["Send", "Publish"]
            ∨ id = "GMDTR07" ∧ call.target.typeArguments = []
            ∨ id = "GMDTR08" ∧ LeavesToken call))
      ∧ ((inspect (.ofProgram p) call).map (·.ruleId)).Nodup
      ∧ (∀ d ∈ inspect (.ofProgram p) call, d.span = call.span)
      ∧ (∀ workers, checker.findings workers (.ofProgram p) = .ok (p.invocations.flatMap (inspect (.ofProgram p))))
      ∧ (p.DeclaresDispatcher → ∀ ids, ids.Sublist ["GMDTR12", "GMDTR07", "GMDTR08"] →
        ∃ sample, Dispatches p sample ∧ (inspect (.ofProgram p) sample).map (·.ruleId) = ids) := by
  refine ⟨exists_inspect?_iff, fun id => ?_, ?_, ?_, findings_checker p, fun hdeclared ids hids => ?_⟩
  · by_cases h : Dispatches p call
    · rw [ruleIds_inspect h, mem_ruleIds_brokenRules_iff, and_iff_right h]
    · simp [inspect_eq_nil_of_not_dispatches h, h]
  · by_cases h : Dispatches p call
    · rw [ruleIds_inspect h]
      exact nodup_ruleIds_brokenRules call
    · rw [inspect_eq_nil_of_not_dispatches h]
      exact List.nodup_nil
  · intro d hd
    by_cases h : Dispatches p call
    · rw [inspect_of_dispatches h, List.mem_map] at hd
      obtain ⟨rule, -, rfl⟩ := hd
      rfl
    · rw [inspect_eq_nil_of_not_dispatches h] at hd
      cases hd
  · obtain ⟨plain, bare, tokenless, hbroken⟩ := exists_brokenRules_sampleCall hids
    have h := dispatches_sampleCall hdeclared plain bare tokenless
    exact ⟨_, h, (ruleIds_inspect h).trans hbroken⟩

/-- The dispatcher types of the library. -/
def library : Program where
  types := ["Mediator", "IMediator", "ISender", "IPublisher"].map fun name =>
    { name, scope := "MediatR", assembly := "MediatR", inSource := false }

theorem dispatch_calls_judged_library :
    library.DeclaresDispatcher
      ∧ ∃ sample, Dispatches library sample
        ∧ (inspect (.ofProgram library) sample).map (·.ruleId) = ["GMDTR12", "GMDTR08"] := by
  have hdeclared : library.DeclaresDispatcher := by
    unfold Program.DeclaresDispatcher
    decide
  exact ⟨hdeclared, (dispatch_calls_judged library default).2.2.2.2.2 hdeclared _ (by decide)⟩

end Dispatch

end Mediation
