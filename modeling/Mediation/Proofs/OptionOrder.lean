import Mathlib.Data.List.Infix
import Mathlib.Data.List.Perm.Basic
import Mathlib.Data.List.TakeWhile
import Mediation.CommandLine.Session
import Mediation.Proofs.JsonLexing

/-!
# Options come in any order

A command line is written down from what it asks for: the dumps come first, and then one clause for each option that
is used, and one for each step of verbosity. Whatever the order of the clauses, the words are read back as what was
asked for. The words of a clause cannot stray into another one, because each clause begins with an option and the
other words are plain; a negative number of workers looks like an option, but is none. Each clause then sets a field
of its own, so the clauses may be taken in any order.
-/

namespace Mediation

/-! ### Numerals -/

namespace Numeral

theorem ne_of_isDigit {c other : Char} (hc : c.isDigit = true) (hother : other.isDigit = false) : c ≠ other := by
  intro heq
  rw [heq, hother] at hc
  cases hc

theorem digitValue?_of_isDigit {c : Char} (hc : c.isDigit = true) :
    Text.digitValue? c = some (c.toNat - '0'.toNat) := by
  obtain ⟨hlow, hhigh⟩ := Char.isDigit_iff_toNat.mp hc
  have hrange : (decide (0x30 ≤ c.toNat) && decide (c.toNat < 0x30 + 10)) = true := by
    simp only [Bool.and_eq_true, decide_eq_true_eq]
    exact ⟨hlow, Nat.lt_succ_of_le hhigh⟩
  have hfind : (Text.zeros.find? fun first => first ≤ c.toNat && c.toNat < first + 10) = some 0x30 :=
    List.find?_cons_of_pos hrange
  rw [Text.digitValue?, hfind]
  rfl

theorem isMargin_of_isDigit {c : Char} (hc : c.isDigit = true) : isMargin c = false := by
  obtain ⟨hlow, hhigh⟩ := Char.isDigit_iff_toNat.mp hc
  have hascii : c.toNat < 0x7f := Nat.lt_of_le_of_lt hhigh (by decide)
  have hblank : c ≠ ' ' := ne_of_isDigit hc rfl
  have hcursor : ¬ c ≤ '\r' := by
    intro hle
    exact absurd (Nat.le_trans hlow hle) (by decide)
  simp [isMargin, hascii, hblank, hcursor]

theorem trim_eq_self {cs : List Char} (h : ∀ c ∈ cs, isMargin c = false) : trim cs = cs := by
  have hkeep : ∀ cs : List Char, (∀ c ∈ cs, isMargin c = false) → cs.dropWhile isMargin = cs := by
    intro cs hcs
    rw [List.dropWhile_eq_self_iff]
    intro hlength
    rw [hcs _ (List.getElem_mem hlength)]
    exact Bool.false_ne_true
  rw [trim, hkeep cs h, hkeep cs.reverse, List.reverse_reverse]
  intro c hc
  exact h c (List.mem_reverse.mp hc)

theorem digitsFrom_of_isDigit {cs : List Char} (h : ∀ c ∈ cs, c.isDigit = true) (value : Nat) :
    digitsFrom value cs = some (cs.foldl (fun n c => n * 10 + (c.toNat - '0'.toNat)) value) := by
  induction cs generalizing value with
  | nil => rfl
  | cons c cs ih =>
    have hc := h c List.mem_cons_self
    have hcs : ∀ c ∈ cs, c.isDigit = true := fun c hc => h c (List.mem_cons_of_mem _ hc)
    rw [digitsFrom, digitValue?_of_isDigit hc, List.foldl_cons]
    · exact ih hcs _
    -- The row has no underscore, so every character counts.
    · intro c' cs' heq
      exact absurd heq (ne_of_isDigit hc rfl)

theorem digits?_toDigits (n : Nat) : digits? (Nat.toDigits 10 n) = some n := by
  obtain ⟨d, ds, hd, hdigit, -⟩ := Json.exists_toDigits_eq_cons n
  have hdigits : ∀ c ∈ ds, c.isDigit = true := by
    intro c hc
    apply Json.isDigit_of_mem_toDigits (n := n)
    rw [hd]
    exact List.mem_cons_of_mem d hc
  have hvalue := Json.ofDigits_toDigits n
  rw [hd, Json.ofDigits, List.foldl_cons, Nat.zero_mul, Nat.zero_add] at hvalue
  rw [hd, digits?, digitValue?_of_isDigit hdigit]
  exact (digitsFrom_of_isDigit hdigits _).trans (congrArg some hvalue)

/-- An integer is read as it was written. -/
theorem parse?_toString (n : Int) : parse? (toString n) = some n := by
  have hdigits : ∀ n : Nat, ∀ c ∈ Nat.toDigits 10 n, isMargin c = false :=
    fun n c hc => isMargin_of_isDigit (Json.isDigit_of_mem_toDigits c hc)
  cases n with
  | ofNat n =>
    obtain ⟨d, ds, hd, hdigit, -⟩ := Json.exists_toDigits_eq_cons n
    have htext : (toString (Int.ofNat n)).toList = Nat.toDigits 10 n := Nat.toList_repr
    have hvalue := digits?_toDigits n
    rw [parse?, htext, trim_eq_self (hdigits n)]
    rw [hd] at hvalue ⊢
    split
    · rename_i heq
      exact absurd (List.cons.inj heq).1 (ne_of_isDigit hdigit rfl)
    · rename_i heq
      exact absurd (List.cons.inj heq).1 (ne_of_isDigit hdigit rfl)
    · rw [hvalue]
      rfl
  | negSucc n =>
    have hmargin : ∀ c ∈ '-' :: Nat.toDigits 10 (n + 1), isMargin c = false := by
      intro c hc
      rcases List.mem_cons.mp hc with rfl | hc
      · rfl
      · exact hdigits (n + 1) c hc
    rw [parse?, Json.toList_toString_negSucc, trim_eq_self hmargin]
    change Option.map _ (digits? (Nat.toDigits 10 (n + 1)) >>= _) = _
    rw [digits?_toDigits]
    rfl

end Numeral

namespace CommandLine

/-! ### Plain words -/

/-- A word that is read as plain text wherever it stands, and that does not divide the command line. -/
def IsPlain (s : String) : Prop := s ≠ divider ∧ Word.ofString s = .ok (.plain s)

/-- A text that does not begin with a dash. -/
def IsUndashed (s : String) : Prop := Text.startsWith s "-" = false

instance : DecidablePred IsUndashed := fun s => inferInstanceAs (Decidable (Text.startsWith s "-" = false))

theorem isPlain_of_isUndashed {s : String} (h : IsUndashed s) : IsPlain s := by
  constructor
  · intro heq
    rw [IsUndashed, heq] at h
    cases h
  · rw [Word.ofString, h]
    rfl

/-- No option is spelled with a digit after its first dash. -/
theorem isDigit_of_mem_table {e : String × Flag} (he : e ∈ Flag.table) :
    (e.1.toList[1]?.any Char.isDigit) = false := by
  revert e
  decide

section Negative

variable {s : String} {d : Char} {ds : List Char} (hs : s.toList = '-' :: d :: ds)
  (hdigits : ∀ c ∈ d :: ds, c.isDigit = true)

include hs hdigits

theorem inFull?_of_negative : inFull? s = none := by
  have hspelling : Flag.ofSpelling? s = none := by
    apply List.lookup_eq_none_iff.mpr
    intro e he
    rw [bne_iff_ne]
    intro heq
    have hfalse := isDigit_of_mem_table he
    rw [← heq, hs] at hfalse
    exact absurd (hdigits d List.mem_cons_self) (by simpa using hfalse)
  have hequals : s.toList.takeWhile (· ≠ '=') = s.toList := by
    rw [List.takeWhile_eq_self_iff, hs]
    intro c hc
    rw [decide_eq_true_eq]
    intro heq
    rcases List.mem_cons.mp hc with hdash | hc
    · rw [hdash] at heq
      cases heq
    · exact Numeral.ne_of_isDigit (hdigits c hc) rfl heq
  rw [inFull?, hspelling]
  simp only [cutAtEquals, hequals, List.drop_length]

theorem candidates_of_negative : candidates s = [] := by
  have hdash : d ≠ '-' := Numeral.ne_of_isDigit (hdigits d List.mem_cons_self) rfl
  have hshort : isShort s = true := by
    simp [isShort, Text.startsWith, hs, List.isPrefixOf, hdash.symm]
  rw [candidates, if_pos hshort, List.map_eq_nil_iff, List.filter_eq_nil_iff]
  intro e he heq
  rw [decide_eq_true_eq, hs] at heq
  have hfalse := isDigit_of_mem_table he
  rw [heq] at hfalse
  exact absurd (hdigits d List.mem_cons_self) (by simpa using hfalse)

/-- A negative number is no option. -/
theorem isPlain_of_negative : IsPlain s := by
  have hrow : (d :: ds).all Text.isDigit = true := by
    rw [List.all_eq_true]
    intro c hc
    rw [Text.isDigit, Numeral.digitValue?_of_isDigit (hdigits c hc)]
    rfl
  have hnumber : isNegativeNumber s.toList = true := by
    simp [hs, isNegativeNumber, isUnsignedNumber, hrow]
  constructor
  · intro heq
    have hcandidates := candidates_of_negative hs hdigits
    rw [heq] at hcandidates
    exact absurd hcandidates (by decide)
  · rw [Word.ofString]
    split
    · rfl
    · rw [inFull?_of_negative hs hdigits, candidates_of_negative hs hdigits]
      simp only [hnumber, Bool.true_or, if_true]

end Negative

theorem isPlain_toString (n : Int) : IsPlain (toString n) := by
  cases n with
  | ofNat n =>
    obtain ⟨d, ds, hd, hdigit, -⟩ := Json.exists_toDigits_eq_cons n
    have htext : (toString (Int.ofNat n)).toList = d :: ds := Nat.toList_repr.trans hd
    have hdash : d ≠ '-' := Numeral.ne_of_isDigit hdigit rfl
    apply isPlain_of_isUndashed
    rw [IsUndashed, Text.startsWith, htext]
    simp [List.isPrefixOf, hdash.symm]
  | negSucc n =>
    obtain ⟨d, ds, hd, -, -⟩ := Json.exists_toDigits_eq_cons (n + 1)
    have htext : (toString (Int.negSucc n)).toList = '-' :: d :: ds := by
      rw [Json.toList_toString_negSucc, hd]
    apply isPlain_of_negative htext
    intro c hc
    exact Json.isDigit_of_mem_toDigits c (hd ▸ hc)

/-! ### Requests and their words -/

/-- An option with its values. -/
inductive Clause where
  | checkers (names : List String)
  | suppress (ids : List String)
  | config (path : String)
  | output (format : Format)
  | jobs (n : Int)
  | verbose
  deriving DecidableEq

namespace Clause

def flag : Clause → Flag
  | .checkers _ => .checkers
  | .suppress _ => .suppress
  | .config _ => .config
  | .output _ => .output
  | .jobs _ => .jobs
  | .verbose => .verbose

/-- How the option is written: by its long name, and verbosity by its letter. -/
def spelling : Clause → String
  | .checkers _ => "--checkers"
  | .suppress _ => "--suppress"
  | .config _ => "--config"
  | .output _ => "--output"
  | .jobs _ => "--jobs"
  | .verbose => "-v"

def values : Clause → List String
  | .checkers names => names
  | .suppress ids => ids
  | .config path => [path]
  | .output format => [format.label]
  | .jobs n => [toString n]
  | .verbose => []

def words (c : Clause) : List String := c.spelling :: c.values

/-- The settings with the field of the option set. -/
def apply (s : Settings) : Clause → Settings
  | .checkers names => { s with checkers := some names }
  | .suppress ids => { s with suppress := ids }
  | .config path => { s with config := some path }
  | .output format => { s with output := format }
  | .jobs n => { s with jobs := some n }
  | .verbose => { s with verbosity := s.verbosity + 1 }

end Clause

/-- What a command line may ask for. An option that is not used is absent. -/
structure Request where
  dumps : List String := []
  checkers : Option (List String) := none
  suppress : Option (List String) := none
  config : Option String := none
  output : Option Format := none
  jobs : Option Int := none
  verbosity : Nat := 0

namespace Request

/-- The clauses of a request in one of their orders. -/
def clauses (q : Request) : List Clause :=
  q.checkers.toList.map .checkers ++ q.suppress.toList.map .suppress ++ q.config.toList.map .config
    ++ q.output.toList.map .output ++ q.jobs.toList.map .jobs ++ List.replicate q.verbosity .verbose

/-- The words of a request with its clauses in the given order. -/
def argv (q : Request) (cs : List Clause) : List String := q.dumps ++ cs.flatMap Clause.words

/-- The settings that a request asks for. Options that are not used have their default values. -/
def settings (q : Request) : Settings where
  dumps := q.dumps
  checkers := q.checkers
  output := q.output.getD .json
  suppress := q.suppress.getD []
  config := q.config
  jobs := some (q.jobs.getD 1)
  listRules := false
  verbosity := q.verbosity

/-- The paths, names and identifiers in a request. -/
def texts (q : Request) : List String :=
  q.dumps ++ q.checkers.getD [] ++ q.suppress.getD [] ++ q.config.toList

end Request

/-! ### Reading words -/

theorem words_cons {s : String} {w : Word} {argv : List String} {ws : List Word} (hs : s ≠ divider)
    (hword : Word.ofString s = .ok w) (hwords : words argv = .ok ws) : words (s :: argv) = .ok (w :: ws) := by
  rw [words, if_neg hs, hword, hwords]
  rfl

theorem words_append_of_isPlain {texts argv : List String} {ws : List Word} (htexts : ∀ s ∈ texts, IsPlain s)
    (hwords : words argv = .ok ws) : words (texts ++ argv) = .ok (texts.map .plain ++ ws) := by
  induction texts with
  | nil => exact hwords
  | cons s texts ih =>
    obtain ⟨hs, hplain⟩ := htexts s List.mem_cons_self
    exact words_cons hs hplain (ih fun t ht => htexts t (List.mem_cons_of_mem s ht))

namespace Clause

/-- The option of a clause as a word. -/
def occurrence (c : Clause) : Occurrence := .known c.flag (isShort c.spelling) none

theorem ofString_spelling (c : Clause) : Word.ofString c.spelling = .ok (.option c.occurrence) := by
  cases c <;> (dsimp only [spelling, occurrence, flag]; rfl)

theorem spelling_ne_divider (c : Clause) : c.spelling ≠ divider := by
  cases c <;> (dsimp only [spelling]; decide)

theorem words_flatMap {cs : List Clause} (hcs : ∀ c ∈ cs, ∀ s ∈ c.values, IsPlain s) :
    CommandLine.words (cs.flatMap words)
      = .ok (cs.flatMap fun c => .option c.occurrence :: c.values.map .plain) := by
  induction cs with
  | nil => rfl
  | cons c cs ih =>
    have hrest := ih fun c' hc' => hcs c' (List.mem_cons_of_mem c hc')
    exact words_cons c.spelling_ne_divider c.ofString_spelling
      (words_append_of_isPlain (hcs c List.mem_cons_self) hrest)

end Clause

/-! ### Groups -/

theorem groups_map_plain (texts : List String) (ws : List Word) :
    groups (texts.map .plain ++ ws) = (texts ++ (groups ws).1, (groups ws).2) := by
  induction texts with
  | nil => rfl
  | cons s texts ih => rw [List.map_cons, List.cons_append, groups, ih, List.cons_append]

theorem groups_clauses (cs : List Clause) :
    groups (cs.flatMap fun c => .option c.occurrence :: c.values.map .plain)
      = ([], cs.map fun c => ⟨c.occurrence, c.values⟩) := by
  induction cs with
  | nil => rfl
  | cons c cs ih =>
    rw [List.flatMap_cons, List.cons_append, groups, groups_map_plain, ih, List.append_nil, List.map_cons]

/-! ### One clause after the other -/

theorem Format.ofLabel?_label (format : Format) : ofLabel? format.label = some format := by
  cases format <;> rfl

namespace Progress

theorem takeFrom_of_arity_many {p : Progress} {flag : Flag} {values : List String} (harity : flag.arity = .many)
    (hvalues : ∀ s ∈ values, s ≠ divider) : p.takeFrom flag values = p.set flag values := by
  have htake : values.takeWhile (· ≠ divider) = values := by
    rw [List.takeWhile_eq_self_iff]
    intro s hs
    exact decide_eq_true (hvalues s hs)
  simp only [takeFrom, harity, htake, List.drop_length, place, if_true, bind_pure]

theorem takeFrom_of_arity_one {p : Progress} {flag : Flag} {text : String} (harity : flag.arity = .one)
    (htext : text ≠ divider) : p.takeFrom flag [text] = p.set flag [text] := by
  simp only [takeFrom, harity, if_neg htext, place, if_true, bind_pure]

/-- A clause sets its field, takes all its words, and leaves everything else as it is. -/
theorem step_clause (p : Progress) {c : Clause} (hc : ∀ s ∈ c.values, IsPlain s) :
    p.step ⟨c.occurrence, c.values⟩ = .ok { p with settings := c.apply p.settings } := by
  have hvalues : ∀ s ∈ c.values, s ≠ divider := fun s hs => (hc s hs).1
  change p.takeFrom c.flag c.values = _
  cases c with
  | checkers names => exact takeFrom_of_arity_many rfl hvalues
  | suppress ids => exact takeFrom_of_arity_many rfl hvalues
  | config path => exact takeFrom_of_arity_one rfl (hvalues path List.mem_cons_self)
  | output format =>
    apply (takeFrom_of_arity_one rfl (hvalues format.label List.mem_cons_self)).trans
    simp only [set, Settings.set, List.head?_cons, Format.ofLabel?_label]
    rfl
  | jobs n =>
    apply (takeFrom_of_arity_one rfl (hvalues (toString n) List.mem_cons_self)).trans
    simp only [set, Settings.set, List.head?_cons, Numeral.parse?_toString]
    rfl
  | verbose => rfl

theorem foldlM_step_clauses {cs : List Clause} (hcs : ∀ c ∈ cs, ∀ s ∈ c.values, IsPlain s) (p : Progress) :
    (cs.map fun c => (⟨c.occurrence, c.values⟩ : Group)).foldlM step p
      = .ok { p with settings := cs.foldl Clause.apply p.settings } := by
  induction cs generalizing p with
  | nil => rfl
  | cons c cs ih =>
    rw [List.map_cons, List.foldlM_cons, step_clause p (hcs c List.mem_cons_self)]
    exact ih (fun c' hc' => hcs c' (List.mem_cons_of_mem c hc')) _

theorem place_empty {dumps : List String} (hdumps : ∀ s ∈ dumps, IsPlain s) :
    (place {} dumps).dumps.getD [] = dumps ∧ (place {} dumps).settings = {} ∧ (place {} dumps).unrecognized = [] := by
  cases dumps with
  | nil => exact ⟨rfl, rfl, rfl⟩
  | cons s dumps =>
    have herase : (s :: dumps).erase divider = s :: dumps := by
      apply List.erase_of_not_mem
      intro hmem
      exact (hdumps divider hmem).1 rfl
    refine ⟨?_, rfl, rfl⟩
    exact herase

end Progress

/-- The words of a request are read clause by clause. -/
theorem parse_argv {q : Request} {cs : List Clause} (hdumps : ∀ s ∈ q.dumps, IsPlain s)
    (hcs : ∀ c ∈ cs, ∀ s ∈ c.values, IsPlain s) :
    parse (q.argv cs) = .ok { cs.foldl Clause.apply {} with dumps := q.dumps } := by
  have hwords := words_append_of_isPlain hdumps (Clause.words_flatMap hcs)
  obtain ⟨hplaced, hsettings, hunrecognized⟩ := Progress.place_empty hdumps
  rw [parse, Request.argv, hwords]
  simp only [groups_map_plain, groups_clauses, List.append_nil, Progress.foldlM_step_clauses hcs]
  change Progress.finish _ = _
  simp only [Progress.finish, hunrecognized, hplaced, hsettings, if_true]

/-! ### Any order -/

namespace Request

variable {q : Request}

theorem mem_clauses {c : Clause} : c ∈ q.clauses ↔
    match c with
    | .checkers names => q.checkers = some names
    | .suppress ids => q.suppress = some ids
    | .config path => q.config = some path
    | .output format => q.output = some format
    | .jobs n => q.jobs = some n
    | .verbose => 0 < q.verbosity := by
  cases c <;> simp [clauses, Nat.pos_iff_ne_zero]

theorem eq_of_flag_eq {c c' : Clause} (hc : c ∈ q.clauses) (hc' : c' ∈ q.clauses) (hflag : c.flag = c'.flag) :
    c = c' := by
  rw [mem_clauses] at hc hc'
  cases c <;> cases c' <;> cases hflag <;> simp_all

theorem isPlain_of_mem_dumps (htexts : ∀ s ∈ q.texts, IsUndashed s) {s : String} (hs : s ∈ q.dumps) : IsPlain s := by
  apply isPlain_of_isUndashed
  apply htexts
  simp only [texts, List.mem_append]
  exact .inl (.inl (.inl hs))

theorem isPlain_of_mem_values (htexts : ∀ s ∈ q.texts, IsUndashed s) {c : Clause} (hc : c ∈ q.clauses) {s : String}
    (hs : s ∈ c.values) : IsPlain s := by
  rw [mem_clauses] at hc
  cases c with
  | checkers _ | suppress _ | config _ =>
    apply isPlain_of_isUndashed
    apply htexts
    simp_all [texts, Clause.values]
  | output format =>
    rw [List.mem_singleton.mp hs]
    apply isPlain_of_isUndashed
    cases format <;> rfl
  | jobs n =>
    rw [List.mem_singleton.mp hs]
    exact isPlain_toString n
  | verbose => cases hs

end Request

namespace Clause

theorem apply_comm_of_flag_ne {c c' : Clause} (hflag : c.flag ≠ c'.flag) (s : Settings) :
    c'.apply (c.apply s) = c.apply (c'.apply s) := by
  cases c <;> cases c' <;> simp_all [flag, apply]

theorem foldl_apply_verbose (n : Nat) (s : Settings) :
    (List.replicate n verbose).foldl apply s = { s with verbosity := s.verbosity + n } := by
  induction n generalizing s with
  | zero => rfl
  | succ n ih =>
    rw [List.replicate_succ, List.foldl_cons, ih]
    simp only [apply, Nat.add_assoc, Nat.add_comm 1 n]

end Clause

namespace Request

theorem foldl_apply_clauses (q : Request) :
    { q.clauses.foldl Clause.apply {} with dumps := q.dumps } = q.settings := by
  obtain ⟨dumps, checkers, suppress, config, output, jobs, verbosity⟩ := q
  simp only [clauses, settings, List.foldl_append, Clause.foldl_apply_verbose]
  cases checkers <;> cases suppress <;> cases config <;> cases output <;> cases jobs <;>
    simp [Clause.apply]

/-- Clauses of different options set different fields, and a request has no two clauses of one option that differ. -/
theorem foldl_apply_perm {q : Request} {cs : List Clause} (hcs : cs.Perm q.clauses) (s : Settings) :
    cs.foldl Clause.apply s = q.clauses.foldl Clause.apply s := by
  apply hcs.foldl_eq'
  intro c hc c' hc' s
  -- The steps of verbosity are the only clauses of one option, and they are all the same.
  by_cases hflag : c.flag = c'.flag
  · rw [eq_of_flag_eq (hcs.mem_iff.mp hc) (hcs.mem_iff.mp hc') hflag]
  · exact Clause.apply_comm_of_flag_ne hflag s

end Request

/-- A command line that begins with its dumps is read as what it asks for, whatever the order of its options, and so
its session is the same in every order. -/
theorem parse_argv_in_any_order (q : Request) (htexts : ∀ s ∈ q.texts, IsUndashed s) {cs : List Clause}
    (hcs : cs.Perm q.clauses) :
    parse (q.argv cs) = .ok q.settings ∧
      ∀ other, other.Perm q.clauses →
        ∀ time files, session time files (q.argv cs) = session time files (q.argv other) := by
  have hparse : ∀ order, order.Perm q.clauses → parse (q.argv order) = .ok q.settings := by
    intro order horder
    have hvalues : ∀ c ∈ order, ∀ s ∈ c.values, IsPlain s :=
      fun c hc s hs => Request.isPlain_of_mem_values htexts (horder.mem_iff.mp hc) hs
    rw [parse_argv (fun s hs => Request.isPlain_of_mem_dumps htexts hs) hvalues, Request.foldl_apply_perm horder,
      Request.foldl_apply_clauses]
  refine ⟨hparse cs hcs, ?_⟩
  intro other hother time files
  rw [session, session, hparse cs hcs, hparse other hother]

theorem parse_argv_in_any_order_sample :
    let q : Request :=
      { dumps := ["a.json", "b.json"], checkers := some [], suppress := some ["GMDTR01", "*"],
        output := some .compiler, jobs := some (-2), verbosity := 2 }
    let cs : List Clause :=
      [.verbose, .checkers [], .jobs (-2), .suppress ["GMDTR01", "*"], .output .compiler, .verbose]
    (∀ s ∈ q.texts, IsUndashed s) ∧ cs.Perm q.clauses
      ∧ q.argv cs = ["a.json", "b.json", "-v", "--checkers", "--jobs", "-2", "--suppress", "GMDTR01", "*",
          "--output", "gcc", "-v"]
      ∧ parse (q.argv cs) = .ok
          { dumps := ["a.json", "b.json"], checkers := some [], output := .compiler, suppress := ["GMDTR01", "*"],
            jobs := some (-2), verbosity := 2 } := by
  intro q cs
  have htexts : ∀ s ∈ q.texts, IsUndashed s := by decide
  have hcs : cs.Perm q.clauses := by decide
  exact ⟨htexts, hcs, by decide, (parse_argv_in_any_order q htexts hcs).1⟩

end CommandLine

end Mediation
