import Interning.Toml.Document
import Mathlib.Data.List.TakeDrop

/-!
# Lines that are read back as statements

A document is read line by line, and what a line holds does not depend on the lines behind it.
`Writes` says so of a text: whatever stands behind it, the statements are those of the text and then
those of the rest. Texts of which this is known are put together (`Writes.append`), so a document is
read back if each of its lines is.

The lines are a blank one, the header of a table, and the assignment of a value to a key without
quotes. The values are truth values, numbers that a signed word holds, and strings without escapes
(`Reads`). A number is written in decimal, and read by a rule that refuses leading zeros.

Assignments of new keys add entries to the table that they stand below, in order
(`foldlM_assignments`), so lines with one header between them are read as the entries that they
assign (`Writes.read_eq`).
-/

set_option autoImplicit false
set_option relaxedAutoImplicit false

namespace Interning.Toml

variable {text rest key name string word : Text} {root inner added : Entries} {value old : Value}
  {c : Char}

/-- A run of characters ends where another begins. -/
theorem span_append {p : Char → Bool} (hall : ∀ c ∈ word, p c = true)
    (hstop : ∀ c, rest.head? = some c → p c = false) : (word ++ rest).span p = (word, rest) := by
  have hrest : rest.takeWhile p = [] ∧ rest.dropWhile p = rest := by
    cases rest with
    | nil => exact ⟨rfl, rfl⟩
    | cons c rest => simp [hstop c rfl]
  rw [List.span_eq_takeWhile_dropWhile, List.takeWhile_append_of_pos hall,
    List.dropWhile_append_of_pos hall, hrest.1, hrest.2, List.append_nil]

/-- Characters that a test tells apart are different. -/
theorem ne_of_holds {p : Char → Bool} {mark : Char} (hc : p c = true) (hmark : p mark = false) :
    c ≠ mark := by
  rintro rfl
  exact absurd (hc.symm.trans hmark) (by decide)

theorem isBlank_eq_false {p : Char → Bool} (hc : p c = true) (hspace : p ' ' = false)
    (htab : p '\t' = false) : isBlank c = false := by
  simp [isBlank, ne_of_holds hc hspace, ne_of_holds hc htab]

/-! ### Numbers -/

/-- A number does not begin with a zero, unless it is zero. -/
theorem head?_decimal_ne_zero {n : Nat} (hn : n ≠ 0) : (Numeral.decimal n).head? ≠ some '0' := by
  induction n using Nat.strongRecOn with
  | ind n ih =>
    unfold Numeral.decimal
    by_cases hlt : n < 10
    · rw [Nat.toDigits_of_lt_base hlt]
      simp [hn]
    · have hrec := ih (n / 10) (by omega) (by omega)
      rw [Nat.toDigits_of_base_le (by decide) (by omega)]
      cases hdigits : Nat.toDigits 10 (n / 10) with
      | nil => exact absurd hdigits Nat.toDigits_ne_nil
      | cons c digits =>
        rw [Numeral.decimal, hdigits] at hrec
        exact hrec

theorem digitRun_of_all (hne : text ≠ []) (hdigits : ∀ c ∈ text, c.isDigit = true) :
    digitRun Char.isDigit text = some text := by
  induction text with
  | nil => exact absurd rfl hne
  | cons c rest ih =>
    obtain ⟨hc, hrest⟩ := List.forall_mem_cons.mp hdigits
    cases rest with
    | nil => simp [digitRun, hc]
    | cons d rest =>
      have hd : d ≠ '_' := by
        rintro rfl
        exact absurd (hrest '_' List.mem_cons_self) (by decide)
      simp [digitRun, hd, hc, ih (by simp) hrest]

theorem decimalRun_decimal (n : Nat) :
    decimalRun (Numeral.decimal n) = some (Numeral.decimal n) := by
  rw [decimalRun, digitRun_of_all (Numeral.decimal_ne_nil n)
    fun _ hmem ↦ Numeral.isDigit_of_mem_decimal hmem]
  split
  · next d digits hdecimal =>
    have hhead := congrArg (fun text ↦ text.bind List.head?) hdecimal
    by_cases hn : n = 0
    · subst hn
      cases hdecimal
    · exact absurd hhead (head?_decimal_ne_zero hn)
  · rfl

theorem foldl_hexValue? (hdigits : ∀ c ∈ text, c.isDigit = true) (start : Nat) :
    text.foldl (fun value c ↦ value * 10 + (Numeral.hexValue? c).getD 0) start =
      Nat.ofDigitChars 10 text start := by
  rw [Nat.ofDigitChars_eq_foldl]
  induction text generalizing start with
  | nil => rfl
  | cons c rest ih =>
    obtain ⟨hc, hrest⟩ := List.forall_mem_cons.mp hdigits
    have hzero : '0'.toNat = 48 := rfl
    rw [List.foldl_cons, List.foldl_cons, ih hrest, Numeral.hexValue?, if_pos hc,
      Option.getD_some, Nat.mul_comm, hzero]

/-- A number is read back from its decimal numeral. -/
theorem integer?_decimal (n : Nat) : integer? (Numeral.decimal n) = some (n : Int) := by
  have hdigits : ∀ c ∈ Numeral.decimal n, c.isDigit = true :=
    fun _ hmem ↦ Numeral.isDigit_of_mem_decimal hmem
  have hvalue : valueOf 10 (Numeral.decimal n) = n := by
    rw [valueOf, foldl_hexValue? hdigits]
    exact Nat.ofDigitChars_ten_toDigits
  have hrun := decimalRun_decimal n
  unfold integer?
  generalize Numeral.decimal n = text at hdigits hvalue hrun
  split
  case h_6 =>
    rw [hrun, Option.map_some, hvalue]
  -- The other words begin with a sign or hold a letter.
  all_goals
    exfalso
    simp at hdigits

/-! ### Values -/

/-- A text is read as a value where a line feed stands behind it. -/
structure Reads (text : Text) (value : Value) : Prop where
  head : ∀ c, text.head? = some c → isBlank c = false
  value? : ∀ rest, value? (text ++ '\n' :: rest) = some (value, '\n' :: rest)

theorem reads_word (hall : word.all isWordChar = true) (hscalar : scalar? word = some value) :
    Reads word value := by
  have hword := List.all_eq_true.mp hall
  constructor
  case head =>
    exact fun c hc ↦ isBlank_eq_false (hword c (List.mem_of_head? hc)) (by decide) (by decide)
  case value? =>
    intro rest
    have hread : readWord (word ++ '\n' :: rest) = (word, '\n' :: rest) := by
      rw [readWord, span_append hword (by simp [isWordChar])]
      rfl
    have hhead : ∀ c, (word ++ '\n' :: rest).head? = some c → isWordChar c = true ∨ c = '\n' := by
      intro c hc
      cases word with
      | nil => exact .inr (Option.some.inj hc).symm
      | cons d word =>
        obtain rfl : d = c := Option.some.inj hc
        exact .inl (hword d List.mem_cons_self)
    unfold Toml.value? nestingLimit
    generalize word ++ '\n' :: rest = text at hread hhead
    unfold valueIn
    split
    case h_6 =>
      rw [hread]
      simp [hscalar]
    case h_1 => omega
    -- The other values begin with a character that stands in no word.
    all_goals
      exfalso
      simp [isWordChar] at hhead

theorem reads_flag (flag : Bool) :
    Reads (if flag then ['t', 'r', 'u', 'e'] else ['f', 'a', 'l', 's', 'e']) (.boolean flag) := by
  cases flag <;> exact reads_word (by decide) rfl

theorem reads_decimal {n : Nat} (hn : n < Nat.pow 2 63) :
    Reads (Numeral.decimal n) (.integer n) := by
  have hdigits : ∀ c ∈ Numeral.decimal n, c.isDigit = true :=
    fun _ hmem ↦ Numeral.isDigit_of_mem_decimal hmem
  have hsigned : isSignedWord n = true := by
    rw [isSignedWord, Bool.and_eq_true, decide_eq_true_eq, decide_eq_true_eq]
    exact ⟨Int.le_trans (Int.neg_nonpos_of_nonneg (Int.natCast_nonneg _)) (Int.natCast_nonneg n),
      Int.ofNat_lt.mpr hn⟩
  refine reads_word (List.all_eq_true.mpr fun c hmem ↦ ?_) ?_
  · simp [isWordChar, Char.isAlphanum, hdigits c hmem]
  · have hletter {letter : Char} {word : Text} (hmem : letter ∈ word)
        (hnot : letter.isDigit = false) : Numeral.decimal n ≠ word :=
      fun heq ↦ ne_of_holds (hdigits letter (heq ▸ hmem)) hnot rfl
    have htrue : Numeral.decimal n ≠ "true".toList := @hletter 't' _ (by simp) (by decide)
    have hfalse : Numeral.decimal n ≠ "false".toList := @hletter 'f' _ (by simp) (by decide)
    rw [scalar?, if_neg htrue, if_neg hfalse, integer?_decimal]
    simp [hsigned]

/-- Whether a character stands for itself in a string with escapes. -/
def isStringChar (c : Char) : Bool :=
  isTextChar c && c != '"' && c != '\\'

theorem isStringChar_iff : isStringChar c = true ↔ isTextChar c = true ∧ c ≠ '"' ∧ c ≠ '\\' := by
  simp only [isStringChar, Bool.and_eq_true, bne_iff_ne, and_assoc]

/-- A string on one line ends at the first quote, if it has no escapes. -/
theorem quoted_append (hall : string.all isStringChar = true) (rest : Text) :
    quoted '"' (string ++ '"' :: rest) = some (string, rest) := by
  induction string with
  | nil =>
    rw [List.nil_append, quoted, if_pos rfl]
  | cons c string ih =>
    rw [List.all_cons, Bool.and_eq_true, isStringChar_iff] at hall
    obtain ⟨⟨htext, hquote, hbackslash⟩, hmore⟩ := hall
    rw [List.cons_append, quoted, if_neg hquote, if_neg (fun h ↦ hbackslash h.1), if_pos htext,
      ih hmore]
    rfl

theorem reads_string (hne : string ≠ []) (hall : string.all isStringChar = true) :
    Reads ('"' :: string ++ ['"']) (.string string) := by
  constructor
  case head =>
    rintro c ⟨⟩
    rfl
  case value? =>
    intro rest
    have hquoted := quoted_append hall ('\n' :: rest)
    have hopen : stringOf '"' (string ++ '"' :: '\n' :: rest) = some (string, '\n' :: rest) := by
      cases string with
      | nil => exact absurd rfl hne
      | cons c string =>
        rw [List.all_cons, Bool.and_eq_true, isStringChar_iff] at hall
        have hc := hall.1.2.1
        rw [← hquoted]
        cases string <;> simp [stringOf, hc]
    have htext : '"' :: string ++ ['"'] ++ '\n' :: rest =
        '"' :: (string ++ '"' :: '\n' :: rest) := by
      simp
    rw [htext, Toml.value?, valueIn, hopen]
    rfl

/-! ### Lines -/

/-- A key that needs no quotes. -/
structure IsBareKey (key : Text) : Prop where
  ne_nil : key ≠ []
  all : key.all isKeyChar = true

instance : DecidablePred IsBareKey := fun key ↦
  decidable_of_iff (key ≠ [] ∧ key.all isKeyChar = true)
    ⟨fun ⟨hne, hall⟩ ↦ ⟨hne, hall⟩, fun ⟨hne, hall⟩ ↦ ⟨hne, hall⟩⟩

theorem not_isBlank_of_isKeyChar (hc : isKeyChar c = true) : isBlank c = false :=
  isBlank_eq_false hc (by decide) (by decide)

theorem IsBareKey.exists_cons (hkey : IsBareKey key) :
    ∃ c more, key = c :: more ∧ isKeyChar c = true := by
  obtain ⟨c, more, rfl⟩ := List.exists_cons_of_ne_nil hkey.ne_nil
  exact ⟨c, more, rfl, List.all_eq_true.mp hkey.all c List.mem_cons_self⟩

theorem skipBlanks_cons (hblank : isBlank c = false) (text : Text) :
    skipBlanks (c :: text) = c :: text := by
  simp [skipBlanks, hblank]

theorem skipBlanks_space (text : Text) : skipBlanks (' ' :: text) = skipBlanks text := rfl

theorem keyPart_append (hkey : IsBareKey key)
    (hstop : ∀ c, rest.head? = some c → isKeyChar c = false) :
    keyPart (key ++ rest) = some (key, rest) := by
  have hspan := span_append (List.all_eq_true.mp hkey.all) hstop
  obtain ⟨c, more, rfl, hc⟩ := hkey.exists_cons
  have hdouble : c ≠ '"' := ne_of_holds hc (by decide)
  have hsingle : c ≠ '\'' := ne_of_holds hc (by decide)
  rw [List.cons_append] at hspan ⊢
  unfold keyPart
  split
  case h_1 heq => exact absurd (List.cons.inj heq).1 hdouble
  case h_2 heq => exact absurd (List.cons.inj heq).1 hsingle
  case h_3 => rw [hspan]

/-- A key of one part ends where no dot follows. -/
theorem key?_append (hkey : IsBareKey key)
    (hstop : ∀ c, rest.head? = some c → isKeyChar c = false)
    (hdot : (skipBlanks rest).head? ≠ some '.') :
    key? (key ++ rest) = some (⟨[], key⟩, skipBlanks rest) := by
  rw [key?, nestingLimit, keyOfParts, keyPart_append hkey hstop, Option.bind_some]
  simp only
  split
  · next hrest => exact absurd (hrest ▸ rfl) hdot
  · rfl

theorem lineEnd_feed (rest : Text) : lineEnd ('\n' :: rest) = some rest := rfl

/-- No line ends where a key or a header begins. -/
theorem lineEnd_eq_none (hblank : isBlank c = false) (hcomment : c ≠ '#') (hfeed : c ≠ '\n')
    (hreturn : c ≠ '\r') (text : Text) : lineEnd (c :: text) = none := by
  rw [lineEnd, skipBlanks_cons hblank]
  simp [skipComment, newline?, hcomment, hfeed, hreturn]

theorem line?_of_statementLine? {statement : Statement}
    (hend : ∀ text, lineEnd (c :: text) = none)
    (hstatement : statementLine? (c :: text) = some (statement, rest)) :
    line? (c :: text) = some (some statement, rest) := by
  rw [line?, hend, hstatement]
  rfl

theorem line?_header (hkey : IsBareKey key) (rest : Text) :
    line? ('[' :: (key ++ ']' :: '\n' :: rest)) = some (some (.header ⟨[], key⟩), rest) := by
  have hend : ∀ text, lineEnd ('[' :: text) = none :=
    lineEnd_eq_none (by decide) (by decide) (by decide) (by decide)
  have hclose : skipBlanks (']' :: '\n' :: rest) = ']' :: '\n' :: rest :=
    skipBlanks_cons (by decide) _
  have hread : key? (key ++ ']' :: '\n' :: rest) = some (⟨[], key⟩, ']' :: '\n' :: rest) := by
    rw [← hclose]
    refine key?_append hkey ?_ (by simp [hclose])
    rintro c ⟨⟩
    decide
  obtain ⟨c, more, rfl, hc⟩ := hkey.exists_cons
  have hbracket : c ≠ '[' := ne_of_holds hc (by decide)
  refine line?_of_statementLine? hend ?_
  rw [statementLine?, skipBlanks_cons (by decide)]
  split
  case h_1 heq => exact absurd (List.cons.inj (List.cons.inj heq).2).1 hbracket
  case h_2 heq =>
    obtain ⟨-, rfl⟩ := List.cons.inj heq
    rw [List.cons_append, skipBlanks_cons (not_isBlank_of_isKeyChar hc), ← List.cons_append, hread]
    rfl
  case h_3 hheader => exact absurd rfl (hheader _)

theorem line?_assignment (hkey : IsBareKey key) (hreads : Reads text value) (rest : Text) :
    line? (key ++ ' ' :: '=' :: ' ' :: (text ++ '\n' :: rest)) =
      some (some (.assignment ⟨[], key⟩ value), rest) := by
  have hvalue : skipBlanks (' ' :: (text ++ '\n' :: rest)) = text ++ '\n' :: rest := by
    rw [skipBlanks_space]
    cases text with
    | nil => exact skipBlanks_cons (by decide) rest
    | cons c text => exact skipBlanks_cons (hreads.head c rfl) _
  have hsign : skipBlanks (' ' :: '=' :: ' ' :: (text ++ '\n' :: rest)) =
      '=' :: ' ' :: (text ++ '\n' :: rest) := by
    rw [skipBlanks_space, skipBlanks_cons (by decide)]
  have hread : key? (key ++ ' ' :: '=' :: ' ' :: (text ++ '\n' :: rest)) =
      some (⟨[], key⟩, '=' :: ' ' :: (text ++ '\n' :: rest)) := by
    rw [← hsign]
    refine key?_append hkey ?_ (by simp [hsign])
    rintro c ⟨⟩
    decide
  obtain ⟨c, more, rfl, hc⟩ := hkey.exists_cons
  have hblank := not_isBlank_of_isKeyChar hc
  rw [List.cons_append] at hread ⊢
  refine line?_of_statementLine? (lineEnd_eq_none hblank (ne_of_holds hc (by decide))
    (ne_of_holds hc (by decide)) (ne_of_holds hc (by decide))) ?_
  have hbracket : c ≠ '[' := ne_of_holds hc (by decide)
  rw [statementLine?, skipBlanks_cons hblank]
  split
  case h_1 heq => exact absurd (List.cons.inj heq).1 hbracket
  case h_2 heq => exact absurd (List.cons.inj heq).1 hbracket
  case h_3 =>
    rw [hread]
    simp only [Option.bind_some, hvalue, hreads.value?, lineEnd_feed, Option.map_some]

/-! ### Documents -/

/-- A text is lines that hold these statements, whatever stands behind them. -/
def Writes (text : Text) (statements : List Statement) : Prop :=
  ∀ rest, Document.statements (text ++ rest) = (Document.statements rest).map (statements ++ ·)

theorem writes_nil : Writes [] [] := by
  intro rest
  simp

theorem Writes.append {more : Text} {first second : List Statement} (h : Writes text first)
    (hmore : Writes more second) : Writes (text ++ more) (first ++ second) := by
  intro rest
  rw [List.append_assoc, h, hmore, Option.map_map]
  simp [Function.comp_def]

/-- Lines with nothing behind them are a document. -/
theorem Writes.statements_eq {statements : List Statement} (h : Writes text statements) :
    Document.statements text = some statements := by
  have hnil : Document.statements [] = some [] := by
    rw [Document.statements]
    rfl
  have hrest := h []
  rwa [List.append_nil, hnil, Option.map_some, List.append_nil] at hrest

theorem writes_of_line? {statement : Option Statement} (hne : text ≠ [])
    (hline : ∀ rest, line? (text ++ rest) = some (statement, rest)) :
    Writes text statement.toList := by
  intro rest
  rw [Document.statements, hline]
  simp [hne]

theorem writes_blank : Writes ['\n'] [] :=
  @writes_of_line? _ none (by simp) fun _ ↦ rfl

theorem writes_header (hkey : IsBareKey key) :
    Writes ('[' :: key ++ [']', '\n']) [.header ⟨[], key⟩] := by
  refine @writes_of_line? _ (some _) (by simp) fun rest ↦ ?_
  rw [List.cons_append, List.cons_append, List.append_assoc]
  exact line?_header hkey rest

theorem writes_assignment (hkey : IsBareKey key) (hreads : Reads text value) :
    Writes (key ++ [' ', '=', ' '] ++ text ++ ['\n']) [.assignment ⟨[], key⟩ value] := by
  refine @writes_of_line? _ (some _) (by simp) fun rest ↦ ?_
  have hline := line?_assignment hkey hreads rest
  simpa using hline

/-! ### Tables that assignments define -/

theorem lookup_eq_none_iff : root.lookup name = none ↔ name ∉ root.map Prod.fst := by
  rw [List.lookup_eq_none_iff]
  simp only [List.mem_map, not_exists, not_and, bne_iff_ne]
  exact ⟨fun h entry hentry heq ↦ h entry hentry heq.symm,
    fun h entry hentry heq ↦ h entry hentry heq.symm⟩

theorem Entries.set_of_not_mem (hname : name ∉ root.map Prod.fst) :
    Entries.set root name value = root ++ [(name, value)] := by
  induction root with
  | nil => rfl
  | cons entry rest ih =>
    obtain ⟨hentry, hrest⟩ := not_or.mp (List.mem_cons.not.mp hname)
    rw [Entries.set, if_neg (Ne.symm hentry), ih hrest]
    rfl

/-- The last entry is changed in place. -/
theorem Entries.set_append (hname : name ∉ root.map Prod.fst) :
    Entries.set (root ++ [(name, old)]) name value = root ++ [(name, value)] := by
  induction root with
  | nil => exact if_pos rfl
  | cons entry rest ih =>
    obtain ⟨hentry, hrest⟩ := not_or.mp (List.mem_cons.not.mp hname)
    rw [List.cons_append, Entries.set, if_neg (Ne.symm hentry), ih hrest]
    rfl

/-- The statement that gives a key its value. -/
def assignmentOf (entry : Text × Value) : Statement :=
  .assignment ⟨[], entry.1⟩ entry.2

/-- Assignments of new keys are entries of the table that they go to, which a state shows as
`view` does. -/
theorem foldlM_assignments (view : Entries → Document.State)
    (hview : ∀ entries name value, (view entries).apply (.assignment ⟨[], name⟩ value) =
      (Entries.define name value entries).map view)
    (hnodup : ((inner ++ added).map Prod.fst).Nodup) :
    (added.map assignmentOf).foldlM Document.State.apply (view inner) =
      some (view (inner ++ added)) := by
  induction added generalizing inner with
  | nil => simp
  | cons entry added ih =>
    rw [List.append_cons] at hnodup ⊢
    have hnew : entry.1 ∉ inner.map Prod.fst := by
      rw [List.map_append, List.map_append] at hnodup
      have hfirst := List.nodup_append.mp (List.nodup_append.mp hnodup).1
      exact fun hmem ↦ hfirst.2.2 _ hmem _ List.mem_cons_self rfl
    rw [List.map_cons, List.foldlM_cons, assignmentOf, hview, Entries.define,
      lookup_eq_none_iff.mpr hnew, Entries.set_of_not_mem hnew]
    exact ih hnodup

/-- A header names a table that is not there yet. -/
theorem apply_header (hname : name ∉ root.map Prod.fst) (current : List Text) :
    Document.State.apply ⟨root, current⟩ (.header ⟨[], name⟩) =
      some ⟨root ++ [(name, .table .header [])], [name]⟩ := by
  rw [Document.State.apply, Entries.atPath, Entries.nameTable, lookup_eq_none_iff.mpr hname,
    Entries.set_of_not_mem hname]
  rfl

/-- Below a header, an assignment goes to the table that it names. -/
theorem apply_assignment (hname : name ∉ root.map Prod.fst) (key : Text) :
    Document.State.apply ⟨root ++ [(name, .table .header inner)], [name]⟩
        (.assignment ⟨[], key⟩ value) =
      (Entries.define key value inner).map fun entries ↦
        ⟨root ++ [(name, .table .header entries)], [name]⟩ := by
  have hlookup : (root ++ [(name, Value.table .header inner)]).lookup name =
      some (.table .header inner) := by
    rw [List.lookup_append, lookup_eq_none_iff.mpr hname]
    simp
  rw [Document.State.apply, Entries.atPath, hlookup]
  simp only [Entries.atPath, Entries.assign, Option.map_map]
  refine congrArg (Option.map · _) (funext fun entries ↦ ?_)
  simp only [Function.comp_apply, Entries.set_append hname]

/-- Assignments, the header of a table, and assignments that go to it. -/
theorem ofStatements_sections (hroot : (root.map Prod.fst).Nodup) (hname : name ∉ root.map Prod.fst)
    (hinner : (inner.map Prod.fst).Nodup) :
    Document.ofStatements (root.map assignmentOf ++ .header ⟨[], name⟩ :: inner.map assignmentOf) =
      some (root ++ [(name, .table .header inner)]) := by
  have hassigned : (root.map assignmentOf).foldlM Document.State.apply ⟨[], []⟩ =
      some ⟨root, []⟩ :=
    @foldlM_assignments [] root (fun entries ↦ ⟨entries, []⟩) (fun _ _ _ ↦ rfl) hroot
  have hsection : (inner.map assignmentOf).foldlM Document.State.apply
        ⟨root ++ [(name, .table .header [])], [name]⟩ =
      some ⟨root ++ [(name, .table .header inner)], [name]⟩ :=
    @foldlM_assignments [] inner (fun entries ↦ ⟨root ++ [(name, .table .header entries)], [name]⟩)
      (fun _ key _ ↦ apply_assignment hname key) hinner
  rw [Document.ofStatements, List.foldlM_append, hassigned]
  simp only [Option.bind_eq_bind, Option.bind_some, List.foldlM_cons, apply_header hname, hsection,
    Option.map_some]

/-- Lines that assign keys, and below the header of a table assign keys of this table, are read as
the entries that they assign. -/
theorem Writes.read_eq (hwrites : Writes text (root.map assignmentOf ++
      .header ⟨[], name⟩ :: inner.map assignmentOf)) (hskip : Text.skip '\ufeff' text = text)
    (hroot : (root.map Prod.fst).Nodup) (hname : name ∉ root.map Prod.fst)
    (hinner : (inner.map Prod.fst).Nodup) :
    Document.read text = some (root ++ [(name, .table .header inner)]) := by
  rw [Document.read, hskip, hwrites.statements_eq, Option.bind_some,
    ofStatements_sections hroot hname hinner]

end Interning.Toml
