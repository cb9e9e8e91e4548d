import Mediation.Json.Reader
import Mediation.Proofs.JsonLexing

/-!
# Reading what was written

A value without floating-point numbers whose objects have distinct keys is read back from what is written for it. Two
steps lie between: lexing gives the tokens of the value, whatever follows it in the text, and the machine takes these
tokens to the value, whatever is on its stack.
-/

namespace Mediation.Json

/-- Values without floating-point numbers, in which no object has a key twice. -/
inductive Plain : Json → Prop where
  | null : Plain .null
  | bool (value : Bool) : Plain (.bool value)
  | int (value : Int) : Plain (.int value)
  | str (value : String) : Plain (.str value)
  | arr {items : List Json} (hitems : ∀ item ∈ items, Plain item) : Plain (.arr items)
  | obj {fields : List (String × Json)} (hkeys : (fields.map Prod.fst).Nodup)
      (hfields : ∀ field ∈ fields, Plain field.2) : Plain (.obj fields)

/-- The characters from the blank to the tilde. -/
abbrev PrintableAscii (c : Char) : Prop := 0x20 ≤ c.toNat ∧ c.toNat ≤ 0x7e

mutual

/-- The tokens that a value is written with. -/
def tokens : Json → List Token
  | .str text => [.str text]
  | .arr [] => [.openArr, .closeArr]
  | .arr (item :: rest) => .openArr :: tokens item ++ itemTokens rest
  | .obj [] => [.openObj, .closeObj]
  | .obj ((key, value) :: rest) => .openObj :: .str key :: .colon :: tokens value ++ fieldTokens rest
  | value => [.scalar value]

def itemTokens : List Json → List Token
  | [] => [.closeArr]
  | item :: rest => .comma :: tokens item ++ itemTokens rest

def fieldTokens : List (String × Json) → List Token
  | [] => [.closeObj]
  | (key, value) :: rest => .comma :: .str key :: .colon :: tokens value ++ fieldTokens rest

end

/-! ### From characters to tokens -/

/-- What is written for a value has its tokens on one line, in front of what follows. -/
def LexesBack (value : Json) : Prop :=
  ∀ line rest, EndsNumber rest →
    lex line (value.writeChars ++ rest) = value.tokens.map (Lexeme.mk line) ++ lex line rest

theorem endsNumber_writeItems (items : List Json) (rest : List Char) : EndsNumber (writeItems items ++ rest) := by
  intro c hc
  cases items <;> (simp [writeItems] at hc; subst hc; decide)

theorem endsNumber_writeFields (fields : List (String × Json)) (rest : List Char) :
    EndsNumber (writeFields fields ++ rest) := by
  intro c hc
  rcases fields with _ | ⟨⟨key, value⟩, fields⟩ <;> (simp [writeFields] at hc; subst hc; decide)

theorem lex_writeItems {items : List Json} (hitems : ∀ item ∈ items, LexesBack item) (line : Nat)
    (rest : List Char) :
    lex line (writeItems items ++ rest) = (itemTokens items).map (Lexeme.mk line) ++ lex line rest := by
  induction items with
  | nil =>
    rw [writeItems, itemTokens, List.singleton_append, lex_punctuation rfl]
    rfl
  | cons item items ih =>
    have hitem := hitems item List.mem_cons_self line _ (endsNumber_writeItems items rest)
    have hrest := ih fun other hother => hitems other (List.mem_cons_of_mem _ hother)
    simp only [writeItems, List.cons_append, List.append_assoc]
    rw [lex_punctuation rfl, lex_blank, hitem, hrest]
    simp [itemTokens]

/-- A field, up to the end of its value. -/
theorem lex_writeField {value : Json} (hvalue : LexesBack value) (line : Nat) (key : String) {rest : List Char}
    (hrest : EndsNumber rest) :
    lex line (writeString key ++ ':' :: ' ' :: (value.writeChars ++ rest))
      = ⟨line, .str key⟩ :: ⟨line, .colon⟩ :: value.tokens.map (Lexeme.mk line) ++ lex line rest := by
  rw [lex_writeString, lex_punctuation rfl, lex_blank, hvalue line rest hrest]
  rfl

theorem lex_writeFields {fields : List (String × Json)} (hfields : ∀ field ∈ fields, LexesBack field.2)
    (line : Nat) (rest : List Char) :
    lex line (writeFields fields ++ rest) = (fieldTokens fields).map (Lexeme.mk line) ++ lex line rest := by
  induction fields with
  | nil =>
    rw [writeFields, fieldTokens, List.singleton_append, lex_punctuation rfl]
    rfl
  | cons field fields ih =>
    obtain ⟨key, value⟩ := field
    have hvalue := hfields (key, value) List.mem_cons_self
    have hrest := ih fun other hother => hfields other (List.mem_cons_of_mem _ hother)
    simp only [writeFields, List.cons_append, List.append_assoc]
    rw [lex_punctuation rfl, lex_blank, lex_writeField hvalue line key (endsNumber_writeFields fields rest), hrest]
    simp [fieldTokens]

theorem lexesBack_int (value : Int) : LexesBack (.int value) := by
  intro line rest hrest
  obtain ⟨c, cs, hvalue, hc⟩ := exists_toString_int_eq_cons value
  have hscan := scanScalar_int value hrest
  change lex line ((toString value).toList ++ rest) = _
  rw [hvalue, List.cons_append] at hscan ⊢
  exact lex_scalar hc hscan line

theorem lexesBack_of_plain {value : Json} (h : Plain value) : LexesBack value := by
  induction h with
  | null => exact fun line rest _ => lex_scalar rfl rfl line
  | bool value =>
    cases value with
    | true => exact fun line rest _ => lex_scalar rfl rfl line
    | false => exact fun line rest _ => lex_scalar rfl rfl line
  | int value => exact lexesBack_int value
  | str value => exact fun line rest _ => lex_writeString line value rest
  | @arr items _ ih =>
    intro line rest _
    cases items with
    | nil =>
      change lex line ('[' :: ']' :: rest) = _
      rw [lex_punctuation rfl, lex_punctuation rfl]
      rfl
    | cons item items =>
      have hitem := ih item List.mem_cons_self line _ (endsNumber_writeItems items rest)
      have hitems := lex_writeItems (fun other hother => ih other (List.mem_cons_of_mem _ hother)) line rest
      simp only [writeChars, List.cons_append, List.append_assoc]
      rw [lex_punctuation rfl, hitem, hitems]
      simp [tokens]
  | @obj fields _ _ ih =>
    intro line rest _
    cases fields with
    | nil =>
      change lex line ('\x7b' :: '\x7d' :: rest) = _
      rw [lex_punctuation rfl, lex_punctuation rfl]
      rfl
    | cons field fields =>
      obtain ⟨key, value⟩ := field
      have hvalue := ih (key, value) List.mem_cons_self
      have hfields := lex_writeFields (fun other hother => ih other (List.mem_cons_of_mem _ hother)) line rest
      simp only [writeChars, List.cons_append, List.append_assoc]
      rw [lex_punctuation rfl, lex_writeField hvalue line key (endsNumber_writeFields fields rest), hfields]
      simp [tokens]

/-! ### From tokens to values -/

/-- The machine takes the tokens of a value to the value and leaves the rest alone. -/
def ReadsBack (value : Json) : Prop :=
  ∀ last stack line lexemes,
    run last .value stack (value.tokens.map (Lexeme.mk line) ++ lexemes) = run last (.next value) stack lexemes

/-- The first item of an array is read like any value, since no value begins with the end of an array. -/
theorem run_item (last : Nat) (stack : List Frame) (line : Nat) (value : Json) (lexemes : List Lexeme) :
    run last .item stack (value.tokens.map (Lexeme.mk line) ++ lexemes)
      = run last .value (.arr [] :: stack) (value.tokens.map (Lexeme.mk line) ++ lexemes) := by
  cases value with
  | arr items => cases items <;> rfl
  | obj fields => rcases fields with _ | ⟨⟨key, value⟩, fields⟩ <;> rfl
  | _ => rfl

theorem run_itemTokens {items : List Json} (hitems : ∀ item ∈ items, ReadsBack item) (last : Nat) (value : Json)
    (before : List Json) (stack : List Frame) (line : Nat) (lexemes : List Lexeme) :
    run last (.next value) (.arr before :: stack) ((itemTokens items).map (Lexeme.mk line) ++ lexemes)
      = run last (.next (.arr (before.reverse ++ value :: items))) stack lexemes := by
  induction items generalizing value before with
  | nil =>
    change run last (.next (.arr (value :: before).reverse)) stack lexemes = _
    rw [List.reverse_cons]
  | cons item items ih =>
    have hitem := hitems item List.mem_cons_self
    have hrest := ih fun other hother => hitems other (List.mem_cons_of_mem _ hother)
    simp only [itemTokens, List.map_cons, List.map_append, List.cons_append, List.append_assoc]
    change run last .value (.arr (value :: before) :: stack) _ = _
    rw [hitem, hrest]
    simp

theorem putField_of_not_mem {key : String} {fields : List (String × Json)} (hkey : key ∉ fields.map Prod.fst)
    (value : Json) : putField key value fields = fields ++ [(key, value)] := by
  rw [putField]
  induction fields with
  | nil => rfl
  | cons field fields ih =>
    obtain ⟨name, found⟩ := field
    simp only [List.map_cons, List.mem_cons, not_or] at hkey
    rw [Table.alterEntries, if_neg (Ne.symm hkey.1), ih hkey.2, List.cons_append]

theorem putField_of_nodup {key : String} {value : Json} {before after : List (String × Json)}
    (hkeys : ((before ++ (key, value) :: after).map Prod.fst).Nodup) :
    putField key value before = before ++ [(key, value)] := by
  apply putField_of_not_mem
  intro hkey
  rw [List.map_append, List.nodup_append] at hkeys
  exact hkeys.2.2 key hkey key (by simp) rfl

theorem run_fieldTokens {fields : List (String × Json)} (hfields : ∀ field ∈ fields, ReadsBack field.2) (last : Nat)
    (key : String) (value : Json) (before : List (String × Json))
    (hkeys : ((before ++ (key, value) :: fields).map Prod.fst).Nodup) (stack : List Frame) (line : Nat)
    (lexemes : List Lexeme) :
    run last (.next value) (.obj before key :: stack) ((fieldTokens fields).map (Lexeme.mk line) ++ lexemes)
      = run last (.next (.obj (before ++ (key, value) :: fields))) stack lexemes := by
  induction fields generalizing key value before with
  | nil =>
    change run last (.next (.obj (putField key value before))) stack lexemes = _
    rw [putField_of_nodup hkeys]
  | cons field fields ih =>
    obtain ⟨key', value'⟩ := field
    have hvalue := hfields (key', value') List.mem_cons_self
    have hrest := ih (fun other hother => hfields other (List.mem_cons_of_mem _ hother)) key' value'
      (before ++ [(key, value)]) (by simpa using hkeys)
    simp only [fieldTokens, List.map_cons, List.map_append, List.cons_append, List.append_assoc]
    change run last .value (.obj (putField key value before) key' :: stack) _ = _
    rw [hvalue, putField_of_nodup hkeys, hrest]
    simp

theorem readsBack_of_plain {value : Json} (h : Plain value) : ReadsBack value := by
  induction h with
  | null | bool | int | str => exact fun _ _ _ _ => rfl
  | @arr items _ ih =>
    intro last stack line lexemes
    cases items with
    | nil => rfl
    | cons item items =>
      have hitem := ih item List.mem_cons_self
      have hitems := run_itemTokens (fun other hother => ih other (List.mem_cons_of_mem _ hother)) last item []
      simp only [tokens, List.map_cons, List.map_append, List.cons_append, List.append_assoc]
      change run last .item stack _ = _
      rw [run_item, hitem, hitems]
      rfl
  | @obj fields hkeys _ ih =>
    intro last stack line lexemes
    cases fields with
    | nil => rfl
    | cons field fields =>
      obtain ⟨key, value⟩ := field
      have hvalue := ih (key, value) List.mem_cons_self
      have hfields := run_fieldTokens (fun other hother => ih other (List.mem_cons_of_mem _ hother)) last key value []
        hkeys
      simp only [tokens, List.map_cons, List.map_append, List.cons_append, List.append_assoc]
      change run last .value (.obj [] key :: stack) _ = _
      rw [hvalue, hfields]
      rfl

/-! ### The characters of a written value -/

theorem printableAscii_of_all {cs : List Char} (h : (cs.all fun c => decide (PrintableAscii c)) = true) :
    ∀ c ∈ cs, PrintableAscii c := by
  simpa using h

theorem printableAscii_hex (width n : Nat) : ∀ c ∈ Text.hex width n, PrintableAscii c := by
  have hdigit : ∀ d < 16, PrintableAscii (Nat.digitChar d) := by decide
  induction width generalizing n with
  | zero => simp [Text.hex]
  | succ width ih =>
    rw [Text.hex, List.forall_mem_append]
    exact ⟨ih (n / 16), by simpa using hdigit (n % 16) (Nat.mod_lt n (by decide))⟩

theorem printableAscii_escapeUnit (unit : Nat) : ∀ c ∈ escapeUnit unit, PrintableAscii c := by
  rw [escapeUnit, List.forall_mem_cons, List.forall_mem_cons]
  exact ⟨by decide, by decide, printableAscii_hex 4 unit⟩

theorem printableAscii_escapeChar (c : Char) : ∀ e ∈ escapeChar c, PrintableAscii e := by
  rw [escapeChar]
  split_ifs with hself hn hr ht hb hf hprint hsmall
  · rw [Bool.or_eq_true, decide_eq_true_eq, decide_eq_true_eq] at hself
    rcases hself with rfl | rfl <;> exact printableAscii_of_all (by decide)
  · exact printableAscii_of_all (by decide)
  · exact printableAscii_of_all (by decide)
  · exact printableAscii_of_all (by decide)
  · exact printableAscii_of_all (by decide)
  · exact printableAscii_of_all (by decide)
  · simpa [PrintableAscii] using hprint
  · exact printableAscii_escapeUnit c.toNat
  · rw [List.forall_mem_append]
    exact ⟨printableAscii_escapeUnit _, printableAscii_escapeUnit _⟩

theorem printableAscii_writeString (s : String) : ∀ c ∈ writeString s, PrintableAscii c := by
  have hbody : ∀ c ∈ s.toList.flatMap escapeChar, PrintableAscii c := by
    intro c hc
    obtain ⟨d, -, hd⟩ := List.mem_flatMap.mp hc
    exact printableAscii_escapeChar d c hd
  rw [writeString, List.cons_append, List.forall_mem_cons, List.forall_mem_append]
  exact ⟨by decide, hbody, printableAscii_of_all (by decide)⟩

theorem printableAscii_int (value : Int) : ∀ c ∈ (toString value).toList, PrintableAscii c := by
  have hdigits : ∀ n, ∀ c ∈ (Nat.repr n).toList, PrintableAscii c := by
    intro n c hc
    rw [Nat.toList_repr] at hc
    have hdigit := Char.isDigit_iff_toNat.mp (isDigit_of_mem_toDigits c hc)
    exact ⟨Nat.le_trans (by decide) hdigit.1, Nat.le_trans hdigit.2 (by decide)⟩
  cases value with
  | ofNat n => exact hdigits n
  | negSucc n =>
    change ∀ c ∈ ("-" ++ Nat.repr (n + 1)).toList, PrintableAscii c
    rw [String.toList_append, List.forall_mem_append]
    exact ⟨printableAscii_of_all (by decide), hdigits (n + 1)⟩

theorem printableAscii_writeItems {items : List Json}
    (hitems : ∀ item ∈ items, ∀ c ∈ item.writeChars, PrintableAscii c) :
    ∀ c ∈ writeItems items, PrintableAscii c := by
  induction items with
  | nil => exact printableAscii_of_all (by decide)
  | cons item items ih =>
    rw [List.forall_mem_cons] at hitems
    simp only [writeItems, List.cons_append, List.forall_mem_cons, List.forall_mem_append]
    exact ⟨by decide, by decide, hitems.1, ih hitems.2⟩

theorem printableAscii_writeFields {fields : List (String × Json)}
    (hfields : ∀ field ∈ fields, ∀ c ∈ field.2.writeChars, PrintableAscii c) :
    ∀ c ∈ writeFields fields, PrintableAscii c := by
  induction fields with
  | nil => exact printableAscii_of_all (by decide)
  | cons field fields ih =>
    rw [List.forall_mem_cons] at hfields
    simp only [writeFields, List.cons_append, List.append_assoc, List.forall_mem_cons, List.forall_mem_append]
    exact ⟨by decide, by decide, printableAscii_writeString field.1, by decide, by decide, hfields.1, ih hfields.2⟩

theorem printableAscii_writeChars {value : Json} (h : Plain value) : ∀ c ∈ value.writeChars, PrintableAscii c := by
  induction h with
  | null => exact printableAscii_of_all (by decide)
  | bool value => cases value <;> exact printableAscii_of_all (by decide)
  | int value => exact printableAscii_int value
  | str value => exact printableAscii_writeString value
  | @arr items _ ih =>
    cases items with
    | nil => exact printableAscii_of_all (by decide)
    | cons item items =>
      rw [List.forall_mem_cons] at ih
      simp only [writeChars, List.cons_append, List.forall_mem_cons, List.forall_mem_append]
      exact ⟨by decide, ih.1, printableAscii_writeItems ih.2⟩
  | @obj fields _ _ ih =>
    cases fields with
    | nil => exact printableAscii_of_all (by decide)
    | cons field fields =>
      rw [List.forall_mem_cons] at ih
      simp only [writeChars, List.cons_append, List.append_assoc, List.forall_mem_cons, List.forall_mem_append]
      exact ⟨by decide, printableAscii_writeString field.1, by decide, by decide, ih.1, printableAscii_writeFields ih.2⟩

/-! ### Whole texts -/

/-- Reading undoes writing. -/
theorem read_writeChars {value : Json} (h : Plain value) : read value.writeChars = .ok value := by
  have hlex := lexesBack_of_plain h 1 [] (by simp [EndsNumber])
  have hrun := readsBack_of_plain h (1 + value.writeChars.count '\n') [] 1 []
  have hmark : value.writeChars.head? ≠ some '\ufeff' := by
    intro hhead
    exact absurd (printableAscii_writeChars h _ (List.mem_of_mem_head? hhead)) (by decide)
  rw [List.append_nil] at hlex
  rw [read, if_neg hmark, hlex, lex]
  exact hrun

end Mediation.Json
