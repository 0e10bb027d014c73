import ContactGraph.Query.Print
import Mathlib.Tactic.SplitIfs

/-!
# Literals of a printed query

What the text of a query says between double quotes. `Scan` goes through a text from left to right :
a double quote opens a literal, and the next one that no backslash escapes closes it. `literals?`
gives what stands in the literals with its escapes undone, unless the text ends inside of one.

`Expr.atoms` and its companions list the names and the texts that terms are made of, in the order in
which they are printed. Whatever the texts are, the literals of a printed term are just its texts
(`literals?_print`) : none of them ends its literal early, and none runs on into the query. Only the
names of resources and of variables are printed as they are, and must not hold a quote.
-/

namespace ContactGraph.Query

open Number

/-! ## Scanning -/

/-- Where a scan stands, and the literals found so far as they are written. -/
inductive Scan where
  /-- Outside of a literal. -/
  | outside (found : List (List Char))
  /-- Inside of a literal, behind a part of it. -/
  | inside (found : List (List Char)) (part : List Char)
  /-- Inside of a literal, behind a backslash that escapes what comes next. -/
  | escaped (found : List (List Char)) (part : List Char)
  deriving DecidableEq, Repr

namespace Scan

/-- One character further. -/
def next : Scan → Char → Scan
  | .outside found, c => if c = '"' then .inside found [] else .outside found
  | .inside found part, c =>
    if c = '"' then .outside (found ++ [part])
    else if c = '\\' then .escaped found (part ++ [c])
    else .inside found (part ++ [c])
  | .escaped found part, c => .inside found (part ++ [c])

/-- The literals found, unless the scan stands inside of one. -/
def found? : Scan → Option (List (List Char))
  | .outside found => some found
  | _ => none

end Scan

/-- A whole text scanned. -/
def scan (cs : List Char) : Scan :=
  cs.foldl Scan.next (.outside [])

/-! ## Undoing escapes -/

/-- The character that a letter behind a backslash stands for. -/
def shortEscape? : Char → Option Char
  | 'b' => some '\x08'
  | 't' => some '\t'
  | 'n' => some '\n'
  | 'f' => some '\x0c'
  | 'r' => some '\r'
  | '"' => some '"'
  | '\\' => some '\\'
  | _ => none

/-- The number that hexadecimal digits in upper case write. -/
def hexNumber? (cs : List Char) : Option Nat :=
  cs.foldlM (fun n c => ("0123456789ABCDEF".toList.idxOf? c).map (16 * n + ·)) 0

/-- A text without its escapes. -/
def unescape : List Char → Option (List Char)
  | [] => some []
  | '\\' :: 'u' :: a :: b :: c :: d :: cs =>
    (hexNumber? [a, b, c, d]).bind fun n => (unescape cs).map (Char.ofNat n :: ·)
  | '\\' :: c :: cs => (shortEscape? c).bind fun e => (unescape cs).map (e :: ·)
  | c :: cs => if c = '\\' then none else (unescape cs).map (c :: ·)

/-- What the literals of a text say, unless the text ends inside of one. -/
def literals? (cs : List Char) : Option (List String) := do
  let parts ← (scan cs).found?
  parts.mapM fun part => (unescape part).map String.ofList

/-- A character is written as it is, by a letter behind a backslash, or by its code. -/
theorem escapeChar_cases (c : Char) :
    (escapeChar c = [c] ∧ c ≠ '"' ∧ c ≠ '\\') ∨
      (∃ l, escapeChar c = ['\\', l] ∧ l ≠ 'u' ∧ shortEscape? l = some c) ∨
      (escapeChar c = '\\' :: 'u' :: hexDigits c.toNat ∧ c.toNat < 128) := by
  unfold escapeChar
  split_ifs with hb ht hn hf hr hquote hslash hcode
  · exact .inr (.inl ⟨'b', rfl, by decide, by rw [hb]; rfl⟩)
  · exact .inr (.inl ⟨'t', rfl, by decide, by rw [ht]; rfl⟩)
  · exact .inr (.inl ⟨'n', rfl, by decide, by rw [hn]; rfl⟩)
  · exact .inr (.inl ⟨'f', rfl, by decide, by rw [hf]; rfl⟩)
  · exact .inr (.inl ⟨'r', rfl, by decide, by rw [hr]; rfl⟩)
  · exact .inr (.inl ⟨'"', rfl, by decide, by rw [hquote]; rfl⟩)
  · exact .inr (.inl ⟨'\\', rfl, by decide, by rw [hslash]; rfl⟩)
  · refine .inr (.inr ⟨rfl, ?_⟩)
    simp only [Bool.or_eq_true, decide_eq_true_eq] at hcode
    omega
  · exact .inl ⟨rfl, hquote, hslash⟩

theorem hexNumber?_hexDigits {n : Nat} (h : n < 128) : hexNumber? (hexDigits n) = some n := by
  revert n
  decide

theorem unescape_escapeChar_append (c : Char) (cs : List Char) :
    unescape (escapeChar c ++ cs) = (unescape cs).map (c :: ·) := by
  rcases escapeChar_cases c with ⟨hc, -, hslash⟩ | ⟨l, hc, hl, hshort⟩ | ⟨hc, hcode⟩
  · rw [hc, List.singleton_append, unescape.eq_4 c cs (by simp_all) (by simp_all), if_neg hslash]
  · rw [hc, List.cons_append, List.singleton_append, unescape.eq_3 l cs (by simp_all), hshort,
      Option.bind_some]
  · have hnumber := hexNumber?_hexDigits hcode
    rw [hexDigits] at hnumber
    rw [hc, hexDigits]
    simp only [List.cons_append, List.nil_append, unescape, hnumber, Option.bind_some,
      Char.ofNat_toNat]

/-- Undoing the escapes of a text gives it back. -/
theorem unescape_escape (cs : List Char) : unescape (escape cs) = some cs := by
  induction cs with
  | nil => rfl
  | cons c cs ih =>
    rw [escape, List.flatMap_cons, unescape_escapeChar_append, ← escape, ih, Option.map_some]

/-! ## Texts without quotes, and quoted ones -/

/-- Scanning the text finds just the parts, and stops outside of a literal. -/
def Finds (cs : List Char) (parts : List (List Char)) : Prop :=
  ∀ found, cs.foldl Scan.next (.outside found) = .outside (found ++ parts)

theorem Finds.append {xs ys : List Char} {ps qs : List (List Char)} (hx : Finds xs ps)
    (hy : Finds ys qs) : Finds (xs ++ ys) (ps ++ qs) := fun found => by
  rw [List.foldl_append, hx, hy, List.append_assoc]

/-- A text without quotes has no literals. -/
theorem finds_nil_of_not_mem {cs : List Char} (h : '"' ∉ cs) : Finds cs [] := by
  intro found
  rw [List.append_nil]
  induction cs with
  | nil => rfl
  | cons c cs ih =>
    rw [List.mem_cons, not_or] at h
    rw [List.foldl_cons, Scan.next, if_neg (Ne.symm h.1), ih h.2]

theorem not_mem_hexDigits (n : Nat) : '"' ∉ hexDigits n ∧ '\\' ∉ hexDigits n := by
  have hdigit : ∀ k < 16, '"' ≠ hexDigit k ∧ '\\' ≠ hexDigit k := by decide
  have hmod (k : Nat) := hdigit (k % 16) (Nat.mod_lt k (by decide))
  simp [hexDigits, hmod]

/-- Inside of a literal, characters that are neither quotes nor backslashes belong to it. -/
theorem foldl_next_inside {cs : List Char} (h : '"' ∉ cs ∧ '\\' ∉ cs)
    (found : List (List Char)) (part : List Char) :
    cs.foldl Scan.next (.inside found part) = .inside found (part ++ cs) := by
  induction cs generalizing part with
  | nil => rw [List.append_nil]; rfl
  | cons c cs ih =>
    simp only [List.mem_cons, not_or] at h
    rw [List.foldl_cons, Scan.next, if_neg (Ne.symm h.1.1), if_neg (Ne.symm h.2.1),
      ih ⟨h.1.2, h.2.2⟩, ← List.append_cons]

/-- An escaped character does not end a literal. -/
theorem foldl_next_escapeChar (c : Char) (found : List (List Char)) (part : List Char) :
    (escapeChar c).foldl Scan.next (.inside found part) =
      .inside found (part ++ escapeChar c) := by
  rcases escapeChar_cases c with ⟨hc, hquote, hslash⟩ | ⟨l, hc, -⟩ | ⟨hc, -⟩
  · rw [hc, List.foldl_cons, Scan.next, if_neg hquote, if_neg hslash, List.foldl_nil]
  · rw [hc]
    simp [Scan.next]
  · rw [hc]
    simp [Scan.next, foldl_next_inside (not_mem_hexDigits c.toNat)]

theorem foldl_next_escape (cs : List Char) (found : List (List Char)) (part : List Char) :
    (escape cs).foldl Scan.next (.inside found part) = .inside found (part ++ escape cs) := by
  induction cs generalizing part with
  | nil => simp [escape]
  | cons c cs ih =>
    rw [escape, List.flatMap_cons, ← escape, List.foldl_append, foldl_next_escapeChar, ih,
      List.append_assoc]

/-- A quoted text is one literal. -/
theorem finds_quote (cs : List Char) : Finds (quote cs) [escape cs] := by
  intro found
  rw [quote, List.cons_append, List.foldl_cons, List.foldl_append, Scan.next, if_pos rfl,
    foldl_next_escape]
  rfl

/-! ## Names and texts of terms -/

/-- What a term is made of, as far as it is not fixed. -/
inductive Atom where
  /-- The name of a resource or of a variable. -/
  | name (s : String)
  /-- The text of a literal or of a separator. -/
  | text (s : String)
  deriving DecidableEq, Repr

/-- The text of an atom, unless it is a name. -/
def Atom.text? : Atom → Option String
  | .name _ => none
  | .text s => some s

/-- The names of a variable : none for one made up. -/
def Variable.atoms : Variable → List Atom
  | .named name => [.name name]
  | .numbered _ => []

mutual

/-- The names and texts of an expression, in the order in which they are printed. -/
def Expr.atoms : Expr → List Atom
  | .var v => v.atoms
  | .iri iri => [.name iri]
  | .literal text type => .text text :: type.toList.map .name
  | .integer _ => []
  | .bool _ => []
  | .call function args => .name function :: atomsOfAll args
  | .str e => e.atoms
  | .bound v => v.atoms
  | .ifElse c y n => c.atoms ++ y.atoms ++ n.atoms
  | .binary l _ r => l.atoms ++ r.atoms
  | .isIn e items => e.atoms ++ atomsOfAll items
  | .holds group => atomsOfGroup group
  | .groupConcat e separator => e.atoms ++ [.text separator]
  | .select s => s.atoms

/-- Those of a graph pattern. -/
def Pattern.atoms : Pattern → List Atom
  | .triple s p o => s.atoms ++ [.name p] ++ o.atoms
  | .optional group => atomsOfGroup group
  | .graph v group => v.atoms ++ atomsOfGroup group
  | .filter e => e.atoms

/-- Those of one key of an order. -/
def OrderCondition.atoms : OrderCondition → List Atom
  | .mk key _ => key.atoms

/-- Those of a selection. -/
def Select.atoms : Select → List Atom
  | .mk columns group order _ => atomsOfAll columns ++ atomsOfGroup group ++ atomsOfOrder order

/-- Those of expressions. -/
def atomsOfAll : List Expr → List Atom
  | [] => []
  | e :: es => e.atoms ++ atomsOfAll es

/-- Those of patterns. -/
def atomsOfGroup : List Pattern → List Atom
  | [] => []
  | p :: ps => p.atoms ++ atomsOfGroup ps

/-- Those of the keys of an order. -/
def atomsOfOrder : List OrderCondition → List Atom
  | [] => []
  | c :: cs => c.atoms ++ atomsOfOrder cs

end

/-- A name without a double quote, or any text. -/
def Atom.IsPlain : Atom → Prop
  | .name s => '"' ∉ s.toList
  | .text _ => True

instance (a : Atom) : Decidable a.IsPlain :=
  match a with
  | .name s => inferInstanceAs (Decidable ('"' ∉ s.toList))
  | .text _ => inferInstanceAs (Decidable True)

/-- No name has a double quote in it. -/
def HasPlainNames (as : List Atom) : Prop :=
  ∀ a ∈ as, a.IsPlain

instance (as : List Atom) : Decidable (HasPlainNames as) :=
  inferInstanceAs (Decidable (∀ a ∈ as, a.IsPlain))

/-! ## Printed terms -/

/-- The text is made of the atoms : scanning it finds their texts, escaped. -/
def Spells (cs : List Char) (as : List Atom) : Prop :=
  HasPlainNames as → Finds cs ((as.filterMap Atom.text?).map fun s => escape s.toList)

namespace Spells

variable {xs ys cs : List Char} {as bs : List Atom} {c : Char}

theorem append (hx : Spells xs as) (hy : Spells ys bs) : Spells (xs ++ ys) (as ++ bs) := by
  intro h
  rw [List.filterMap_append, List.map_append]
  have has : HasPlainNames as := fun a ha => h a (List.mem_append_left bs ha)
  have hbs : HasPlainNames bs := fun b hb => h b (List.mem_append_right as hb)
  exact (hx has).append (hy hbs)

theorem of_not_mem (h : '"' ∉ cs) : Spells cs [] := fun _ =>
  finds_nil_of_not_mem h

theorem cons (hc : '"' ≠ c) (h : Spells cs as) : Spells (c :: cs) as := by
  have hone : Spells [c] [] := of_not_mem (by simpa using hc)
  exact hone.append h

/-- What is fixed in front of a term adds nothing. -/
theorem prepend (hx : '"' ∉ xs) (hy : Spells ys as) : Spells (xs ++ ys) as :=
  (of_not_mem hx).append hy

/-- Nor does what is fixed behind it. -/
theorem close (hx : Spells xs as) (hy : '"' ∉ ys) : Spells (xs ++ ys) as := by
  have h := hx.append (of_not_mem hy)
  rwa [List.append_nil] at h

/-- Nor do the braces of a group. -/
theorem braces (h : Spells xs as) : Spells ('\x7b' :: ' ' :: xs ++ ['\x7d']) as :=
  ((h.cons (by decide)).cons (by decide)).close (by decide)

end Spells

theorem spells_name (name : String) : Spells name.toList [.name name] := fun h =>
  finds_nil_of_not_mem (h (.name name) List.mem_cons_self)

theorem spells_quote (s : String) : Spells (quote s.toList) [.text s] := fun _ =>
  finds_quote s.toList

theorem spells_printIri (iri : Iri) : Spells (printIri iri) [.name iri] :=
  ((spells_name iri).cons (by decide)).close (by decide)

theorem not_mem_natDigits (n : Nat) : '"' ∉ natDigits n := by
  intro h
  have hdigit := Nat.isDigit_of_mem_toDigits (by decide) (by decide) h
  exact absurd hdigit (by decide)

theorem not_mem_intDigits (i : Int) : '"' ∉ intDigits i := by
  unfold intDigits
  split
  · simpa using not_mem_natDigits i.natAbs
  · exact not_mem_natDigits i.natAbs

theorem Variable.spells_print (v : Variable) : Spells v.print v.atoms := by
  cases v with
  | named name => exact (spells_name name).cons (by decide)
  | numbered n =>
    exact ((Spells.of_not_mem (not_mem_natDigits n)).cons (by decide)).cons (by decide)

theorem not_mem_operator (op : Operator) : '"' ∉ op.print := by
  cases op <;> decide

theorem not_mem_printLimit (limit : Option Nat) : '"' ∉ printLimit limit := by
  cases limit with
  | none => exact List.not_mem_nil
  | some n =>
    show '"' ∉ " LIMIT ".toList ++ natDigits n
    rw [List.mem_append, not_or]
    exact ⟨by decide, not_mem_natDigits n⟩

theorem spells_printLiteral (text : String) (type : Option Iri) :
    Spells (printLiteral text type) (.text text :: type.toList.map .name) := by
  cases type with
  | none => exact spells_quote text
  | some type =>
    exact (spells_quote text).append (((spells_printIri type).cons (by decide)).cons (by decide))

mutual

/-- The text of an expression is made of its atoms. -/
theorem Expr.spells_print (e : Expr) : Spells e.print e.atoms := by
  cases e with
  | var v => exact v.spells_print
  | iri iri => exact spells_printIri iri
  | literal text type => exact spells_printLiteral text type
  | integer i => exact .of_not_mem (not_mem_intDigits i)
  | bool b => exact .of_not_mem (by cases b <;> decide)
  | call f args =>
    show Spells (printIri f ++ '(' :: printCommas args ++ [')']) ([.name f] ++ atomsOfAll args)
    exact ((spells_printIri f).append ((spells_printCommas args).cons (by decide))).close
      (by decide)
  | str e =>
    show Spells ("str(".toList ++ e.print ++ [')']) e.atoms
    exact (e.spells_print.prepend (by decide)).close (by decide)
  | bound v =>
    show Spells ("BOUND(".toList ++ v.print ++ [')']) v.atoms
    exact (v.spells_print.prepend (by decide)).close (by decide)
  | ifElse c y n =>
    show Spells ("IF(".toList ++ c.print ++ ',' :: ' ' :: y.print ++ ',' :: ' ' :: n.print ++ [')'])
      (c.atoms ++ y.atoms ++ n.atoms)
    have hy := (y.spells_print.cons (c := ' ') (by decide)).cons (c := ',') (by decide)
    have hn := (n.spells_print.cons (c := ' ') (by decide)).cons (c := ',') (by decide)
    exact (((c.spells_print.prepend (by decide)).append hy).append hn).close (by decide)
  | binary l op r =>
    show Spells ('(' :: l.print ++ ' ' :: op.print ++ ' ' :: r.print ++ [')']) (l.atoms ++ r.atoms)
    have hop := (Spells.of_not_mem (not_mem_operator op)).cons (c := ' ') (by decide)
    have hl := (l.spells_print.cons (c := '(') (by decide)).append hop
    rw [List.append_nil] at hl
    exact (hl.append (r.spells_print.cons (by decide))).close (by decide)
  | isIn e items =>
    show Spells (e.print ++ " IN (".toList ++ printCommas items ++ [')'])
      (e.atoms ++ atomsOfAll items)
    exact ((e.spells_print.close (by decide)).append (spells_printCommas items)).close (by decide)
  | holds group =>
    show Spells ("EXISTS ".toList ++ '\x7b' :: ' ' :: printPatterns group ++ ['\x7d'])
      (atomsOfGroup group)
    rw [List.append_assoc]
    exact (spells_printPatterns group).braces.prepend (by decide)
  | groupConcat e separator =>
    show Spells ("GROUP_CONCAT(".toList ++ e.print ++ ',' :: ' ' :: quote separator.toList ++ [')'])
      (e.atoms ++ [.text separator])
    have hsep := ((spells_quote separator).cons (c := ' ') (by decide)).cons (c := ',') (by decide)
    exact ((e.spells_print.prepend (by decide)).append hsep).close (by decide)
  | select s =>
    show Spells ('(' :: s.print ++ [')']) s.atoms
    exact (s.spells_print.cons (by decide)).close (by decide)

/-- The text of a graph pattern is made of its atoms. -/
theorem Pattern.spells_print (p : Pattern) : Spells p.print p.atoms := by
  cases p with
  | triple s p o =>
    show Spells (s.print ++ ' ' :: printIri p ++ ' ' :: o.print ++ [' ', '.'])
      (s.atoms ++ [.name p] ++ o.atoms)
    have hp := (spells_printIri p).cons (c := ' ') (by decide)
    have ho := o.spells_print.cons (c := ' ') (by decide)
    exact ((s.spells_print.append hp).append ho).close (by decide)
  | optional group =>
    show Spells ("OPTIONAL ".toList ++ '\x7b' :: ' ' :: printPatterns group ++ ['\x7d'])
      (atomsOfGroup group)
    rw [List.append_assoc]
    exact (spells_printPatterns group).braces.prepend (by decide)
  | graph v group =>
    show Spells
      ("GRAPH ".toList ++ v.print ++ ' ' :: '\x7b' :: ' ' :: printPatterns group ++ ['\x7d'])
      (v.atoms ++ atomsOfGroup group)
    rw [List.append_assoc]
    exact (v.spells_print.prepend (by decide)).append
      ((spells_printPatterns group).braces.cons (by decide))
  | filter e =>
    show Spells ("FILTER(".toList ++ e.print ++ [')']) e.atoms
    exact (e.spells_print.prepend (by decide)).close (by decide)

/-- The text of a key of an order is made of its atoms. -/
theorem OrderCondition.spells_print (c : OrderCondition) : Spells c.print c.atoms := by
  cases c with
  | mk key descending =>
    show Spells ((if descending then " DESC(".toList else " ASC(".toList) ++ key.print ++ [')'])
      key.atoms
    exact (key.spells_print.prepend (by cases descending <;> decide)).close (by decide)

/-- The text of a selection is made of its atoms. -/
theorem Select.spells_print (s : Select) : Spells s.print s.atoms := by
  cases s with
  | mk columns group order limit =>
    show Spells ("SELECT ".toList ++ printBlanks columns ++ " WHERE ".toList
        ++ '\x7b' :: ' ' :: printPatterns group ++ '\x7d' :: printOrder order ++ printLimit limit)
      (atomsOfAll columns ++ atomsOfGroup group ++ atomsOfOrder order)
    have hcolumns : Spells ("SELECT ".toList ++ printBlanks columns ++ " WHERE ".toList)
        (atomsOfAll columns) :=
      ((spells_printBlanks columns).prepend (by decide)).close (by decide)
    have hgroup := ((spells_printPatterns group).cons (c := ' ') (by decide)).cons (c := '\x7b')
      (by decide)
    have horder := (spells_printOrder order).cons (c := '\x7d') (by decide)
    exact ((hcolumns.append hgroup).append horder).close (not_mem_printLimit limit)

/-- Commas between expressions add nothing. -/
theorem spells_printCommas (es : List Expr) : Spells (printCommas es) (atomsOfAll es) := by
  match es with
  | [] => exact .of_not_mem List.not_mem_nil
  | [e] =>
    show Spells e.print (e.atoms ++ [])
    rw [List.append_nil]
    exact e.spells_print
  | e :: f :: es =>
    show Spells (e.print ++ ',' :: ' ' :: printCommas (f :: es)) (e.atoms ++ atomsOfAll (f :: es))
    exact e.spells_print.append
      (((spells_printCommas (f :: es)).cons (by decide)).cons (by decide))

/-- Nor do blanks. -/
theorem spells_printBlanks (es : List Expr) : Spells (printBlanks es) (atomsOfAll es) := by
  match es with
  | [] => exact .of_not_mem List.not_mem_nil
  | [e] =>
    show Spells e.print (e.atoms ++ [])
    rw [List.append_nil]
    exact e.spells_print
  | e :: f :: es =>
    show Spells (e.print ++ ' ' :: printBlanks (f :: es)) (e.atoms ++ atomsOfAll (f :: es))
    exact e.spells_print.append ((spells_printBlanks (f :: es)).cons (by decide))

/-- Nor do blanks behind patterns. -/
theorem spells_printPatterns (ps : List Pattern) : Spells (printPatterns ps) (atomsOfGroup ps) := by
  match ps with
  | [] => exact .of_not_mem List.not_mem_nil
  | p :: ps =>
    show Spells (p.print ++ ' ' :: printPatterns ps) (p.atoms ++ atomsOfGroup ps)
    exact p.spells_print.append ((spells_printPatterns ps).cons (by decide))

/-- Nor do the words in front of an order. -/
theorem spells_printOrder (cs : List OrderCondition) :
    Spells (printOrder cs) (atomsOfOrder cs) := by
  match cs with
  | [] => exact .of_not_mem List.not_mem_nil
  | c :: cs =>
    show Spells (" ORDER BY".toList ++ c.print ++ printConditions cs) (c.atoms ++ atomsOfOrder cs)
    exact (c.spells_print.prepend (by decide)).append (spells_printConditions cs)

theorem spells_printConditions (cs : List OrderCondition) :
    Spells (printConditions cs) (atomsOfOrder cs) := by
  match cs with
  | [] => exact .of_not_mem List.not_mem_nil
  | c :: cs =>
    show Spells (c.print ++ printConditions cs) (c.atoms ++ atomsOfOrder cs)
    exact c.spells_print.append (spells_printConditions cs)

end

theorem spells_printGroup (group : Group) : Spells (printGroup group) (atomsOfGroup group) :=
  (spells_printPatterns group).braces

/-! ## Literals of printed terms -/

/-- A text made of atoms has just their texts for literals. -/
theorem Spells.literals? {cs : List Char} {as : List Atom} (h : Spells cs as)
    (hnames : HasPlainNames as) : literals? cs = some (as.filterMap Atom.text?) := by
  have hscan :
      (scan cs).found? = some ((as.filterMap Atom.text?).map fun s => escape s.toList) := by
    rw [scan, h hnames, List.nil_append]
    rfl
  have hparts (texts : List String) :
      (texts.map fun s => escape s.toList).mapM
        (fun part => (unescape part).map String.ofList) = some texts := by
    induction texts with
    | nil => rfl
    | cons s texts ih =>
      rw [List.map_cons, List.mapM_cons, unescape_escape, ih]
      simp
  rw [Query.literals?, hscan]
  exact hparts _

/-- Whatever the texts in a term are, the literals of what is printed are just these texts, in their
order, and the printed text ends outside of a literal. -/
theorem literals?_print :
    (∀ e : Expr, HasPlainNames e.atoms →
      literals? e.print = some (e.atoms.filterMap Atom.text?)) ∧
    (∀ p : Pattern, HasPlainNames p.atoms →
      literals? p.print = some (p.atoms.filterMap Atom.text?)) ∧
    (∀ group : Group, HasPlainNames (atomsOfGroup group) →
      literals? (printGroup group) = some ((atomsOfGroup group).filterMap Atom.text?)) ∧
    ∀ s : Select, HasPlainNames s.atoms →
      literals? s.text.toList = some (s.atoms.filterMap Atom.text?) := by
  refine ⟨fun e h => e.spells_print.literals? h, fun p h => p.spells_print.literals? h,
    fun group h => (spells_printGroup group).literals? h, fun s h => ?_⟩
  rw [Select.text, String.toList_ofList]
  exact s.spells_print.literals? h

/-- A selection whose texts are written to end their literals early, or never. -/
def hostileSelect : Select :=
  .mk [.var (.named "contact"), .groupConcat (.str (.var (.numbered 1))) "\" . \n\\"]
    [.triple (.var (.named "contact")) "hasEmailAddress" (.var (.numbered 1)),
      .filter (.binary (.str (.var (.numbered 1))) .eq (.literal "\") || (true" (some "string")))]
    [.mk (.call "lowerCase" [.literal "\\" none, .literal "\x07" none]) true] (some 3)

theorem literals?_print_hostileSelect :
    HasPlainNames hostileSelect.atoms ∧
      literals? hostileSelect.text.toList =
        some ["\" . \n\\", "\") || (true", "\\", "\x07"] :=
  ⟨by decide, literals?_print.2.2.2 hostileSelect (by decide)⟩

end ContactGraph.Query
