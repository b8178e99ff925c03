/-
**A reader for plain TOML documents.**

One table header, one pair or one comment to a line; keys are bare, a value is a string without escapes, a
decimal number or a truth value. What TOML allows beyond that is refused.

* `readLine` — a line; `Means` — a line and what it says, `means_string` and `means_integer` for written pairs.
* `read` — a document: no table and no key of a table comes twice; `read_intercalate` takes it apart by lines.
* `Document.get` — the value of a key of a table.
-/

import ChameleonPQ.Library.IpText

namespace Library.Toml

open IpText

inductive Value where
  | string (text : List Char)
  | integer (n : Nat)
  | boolean (b : Bool)
  deriving DecidableEq

/-- What a line says. -/
inductive Line where
  | nothing
  | table (name : List Char)
  | pair (key : List Char) (value : Value)
  deriving DecidableEq

/-- TOML's whitespace. -/
def isBlank (c : Char) : Bool := c == ' ' || c == '\t'

/-- What a bare key is made of. -/
def isBare (c : Char) : Bool := c.isAlphanum || c == '_' || c == '-'

/-- What may stand in a string as itself. -/
def isPlain (c : Char) : Bool := c != '"' && c != '\\' && (c == '\t' || 32 ≤ c.toNat) && c.toNat != 127

def trimEnd (text : List Char) : List Char := (text.reverse.dropWhile isBlank).reverse

/-- A string, behind its opening quote. -/
def readString : List Char → Option (List Char)
  | [] => none
  | c :: rest =>
    if c = '"' then if rest.all isBlank then some [] else none
    else if isPlain c then (readString rest).map (c :: ·)
    else none

/-- A number, without a leading zero. -/
def readInteger (text : List Char) : Option Nat :=
  if text.head? = some '0' ∧ text.length ≠ 1 then none else readNat 10 text

def readValue : List Char → Option Value
  | [] => none
  | c :: rest =>
    if c = '"' then (readString rest).map .string
    else
      let text := trimEnd (c :: rest)
      if text = "true".toList then some (.boolean true)
      else if text = "false".toList then some (.boolean false)
      else (readInteger text).map .integer

/-- A bare key, with blanks around it. -/
def readKey (text : List Char) : Option (List Char) :=
  let key := trimEnd (text.dropWhile isBlank)
  if key ≠ [] ∧ key.all isBare = true then some key else none

/-- What stands before and behind the first equals sign. -/
def splitAssign : List Char → Option (List Char × List Char)
  | [] => none
  | c :: rest => if c = '=' then some ([], rest) else (splitAssign rest).map fun parts => (c :: parts.1, parts.2)

/-- The name of a table, behind the opening bracket. -/
def readTable (text : List Char) : Option (List Char) :=
  match (trimEnd text).reverse with
  | ']' :: reversed => readKey reversed.reverse
  | _ => none

/-- A key and its value, around an equals sign. -/
def readPair (text : List Char) : Option Line :=
  (splitAssign text).bind fun parts =>
    (readKey parts.1).bind fun key => (readValue (parts.2.dropWhile isBlank)).map fun value => .pair key value

def readLine (text : List Char) : Option Line :=
  match text.dropWhile isBlank with
  | [] => some .nothing
  | c :: rest =>
    if c = '#' then some .nothing
    else if c = '[' then (readTable rest).map .table
    else readPair (c :: rest)

/-! ### Documents -/

/-- A pair, with the table it stands in. -/
structure Entry where
  table : List Char
  key : List Char
  value : Value
  deriving DecidableEq

structure Document where
  tables : List (List Char)
  entries : List Entry
  deriving DecidableEq

/-- The pairs of some lines, within a table to begin with. -/
def entriesOf : List Char → List Line → List Entry
  | _, [] => []
  | table, .nothing :: rest => entriesOf table rest
  | _, .table name :: rest => entriesOf name rest
  | table, .pair key value :: rest => ⟨table, key, value⟩ :: entriesOf table rest

/-- The tables that some lines open. -/
def tablesOf (lines : List Line) : List (List Char) :=
  lines.filterMap fun line => match line with
    | .table name => some name
    | _ => none

/-- A document; a table that is opened twice and a key that comes twice are refused. -/
def read (text : List Char) : Option Document :=
  ((text.splitOn '\n').mapM readLine).bind fun lines =>
    let document : Document := ⟨tablesOf lines, entriesOf [] lines⟩
    if document.tables.Nodup ∧ (document.entries.map fun entry => (entry.table, entry.key)).Nodup then
      some document
    else none

/-- The value of a key. -/
def Document.get (document : Document) (table key : String) : Option Value :=
  (document.entries.find? fun entry => entry.table == table.toList && entry.key == key.toList).map (·.value)

/-- The pairs of one table. -/
def Document.within (document : Document) (table : String) : List Entry :=
  document.entries.filter fun entry => entry.table == table.toList

/-- A value is looked for among the pairs of its table. -/
theorem Document.get_eq (document : Document) (table : String) : document.get table = fun key =>
    ((document.within table).find? fun entry => entry.key == key.toList).map (·.value) := by
  funext key
  simp only [Document.get, Document.within, List.find?_filter, Bool.decide_and, Bool.decide_eq_true]

/-- **Only the pairs of a table count for its values.** -/
theorem Document.get_congr {first second : Document} {table : String}
    (same : first.within table = second.within table) : first.get table = second.get table := by
  rw [first.get_eq, second.get_eq, same]

theorem Document.get_eq_none {document : Document} {table : String} (none : document.within table = []) :
    document.get table = fun _ => Option.none := by
  rw [document.get_eq, none]
  rfl

/-! ### Written lines are read back -/

/-- The split does not look behind the equals sign. -/
theorem splitAssign_append {front : List Char} {parts : List Char × List Char}
    (split : splitAssign front = some parts) (back : List Char) :
    splitAssign (front ++ back) = some (parts.1, parts.2 ++ back) := by
  induction front generalizing parts with
  | nil => cases split
  | cons c front ih =>
    rw [splitAssign] at split
    rw [List.cons_append, splitAssign]
    by_cases equals : c = '='
    · rw [if_pos equals] at split ⊢
      obtain rfl := Option.some.inj split
      rfl
    · rw [if_neg equals] at split ⊢
      obtain ⟨inner, found, rfl⟩ := Option.map_eq_some_iff.mp split
      rw [ih found]
      rfl

/-- Plain text between quotes is read back. -/
theorem readString_append {text : List Char} (plain : ∀ c ∈ text, isPlain c = true) :
    readString (text ++ ['"']) = some text := by
  induction text with
  | nil => decide
  | cons c text ih =>
    have here := plain c List.mem_cons_self
    have quote : c ≠ '"' := by
      rintro rfl
      cases here
    rw [List.cons_append, readString, if_neg quote, if_pos here,
      ih fun c later => plain c (List.mem_cons_of_mem _ later)]
    rfl

/-- The key of what is written before a value: a bare key, blanks, an equals sign and a blank. -/
def fieldKey (front : List Char) : Option (List Char) :=
  match front, splitAssign front with
  | c :: _, some (before, [' ']) =>
    if '\n' ∈ front ∨ c = '#' ∨ c = '[' ∨ isBlank c = true then none else readKey before
  | _, _ => none

/-- A line without a line break in it, and what it says. -/
def Means (line : List Char) (meaning : Line) : Prop := '\n' ∉ line ∧ readLine line = some meaning

instance (line : List Char) (meaning : Line) : Decidable (Means line meaning) :=
  inferInstanceAs (Decidable (_ ∧ _))

/-- A pair is read back from its text, when its value is. -/
theorem means_pair {front key : List Char} (field : fieldKey front = some key) {c : Char} {rest : List Char}
    (solid : isBlank c = false) (unbroken : '\n' ∉ c :: rest) {value : Value}
    (read : readValue (c :: rest) = some value) : Means (front ++ c :: rest) (.pair key value) := by
  unfold fieldKey at field
  split at field
  · rename_i first others before split
    split at field
    · cases field
    · rename_i starts
      obtain ⟨newline, comment, bracket, blank⟩ : '\n' ∉ first :: others ∧ first ≠ '#' ∧ first ≠ '[' ∧
          ¬ isBlank first = true := by
        simpa only [not_or] using starts
      have whole := splitAssign_append split (c :: rest)
      have value : (([' '] ++ c :: rest).dropWhile isBlank) = c :: rest := by
        rw [List.singleton_append, List.dropWhile_cons_of_pos (by decide),
          List.dropWhile_cons_of_neg (by rw [solid]; decide)]
      refine ⟨List.not_mem_append newline unbroken, ?_⟩
      rw [List.cons_append] at whole ⊢
      rw [readLine, List.dropWhile_cons_of_neg blank]
      dsimp only
      rw [if_neg comment, if_neg bracket, readPair, whole, Option.bind_some, field, Option.bind_some, value, read]
      rfl
  · cases field

/-- **A string is read back**. -/
theorem means_string {front key : List Char} (field : fieldKey front = some key) {text : List Char}
    (plain : ∀ c ∈ text, isPlain c = true) :
    Means (front ++ ('"' :: text ++ ['"'])) (.pair key (.string text)) := by
  have unbroken : '\n' ∉ '"' :: text ++ ['"'] :=
    List.not_mem_append (List.not_mem_cons_of_ne_of_not_mem (by decide) fun member => by cases plain _ member)
      (by decide)
  refine means_pair field (by decide) unbroken ?_
  show (readString (text ++ ['"'])).map Value.string = _
  rw [readString_append plain]
  rfl

theorem trimEnd_of_solid {text : List Char} (solid : ∀ c ∈ text, isBlank c = false) : trimEnd text = text := by
  have untouched : text.reverse.dropWhile isBlank = text.reverse := by
    cases reversed : text.reverse with
    | nil => rfl
    | cons c rest =>
      have member : c ∈ text := List.mem_reverse.mp (by rw [reversed]; exact List.mem_cons_self)
      exact List.dropWhile_cons_of_neg (by rw [solid c member]; decide)
  rw [trimEnd, untouched, List.reverse_reverse]

/-- A positive number does not begin with a zero. -/
theorem head_toDigits {n : Nat} (positive : 0 < n) : (Nat.toDigits 10 n).head? ≠ some '0' := by
  induction n using Nat.base_induction 10 (by decide) with
  | single m small =>
    have digits : ∀ m < 10, 0 < m → ([Nat.digitChar m] : List Char).head? ≠ some '0' := by decide
    rw [Nat.toDigits_of_lt_base small]
    exact digits m small positive
  | digit m k small more ih =>
    rw [← Nat.toDigits_append_toDigits (by decide) more small, List.head?_append_of_ne_nil _ Nat.toDigits_ne_nil]
    exact ih more

/-- **A number is read back.** -/
theorem means_integer {front key : List Char} (field : fieldKey front = some key) (n : Nat) :
    Means (front ++ Nat.toDigits 10 n) (.pair key (.integer n)) := by
  have digit : ∀ c ∈ Nat.toDigits 10 n, c.isDigit = true :=
    fun c => Nat.isDigit_of_mem_toDigits (by decide) (by decide)
  have solid : ∀ c ∈ Nat.toDigits 10 n, isBlank c = false := by
    intro c member
    by_contra blank
    simp only [isBlank, Bool.not_eq_false, Bool.or_eq_true, beq_iff_eq] at blank
    rcases blank with rfl | rfl
    · cases digit _ member
    · cases digit _ member
  have leading : ¬ ((Nat.toDigits 10 n).head? = some '0' ∧ (Nat.toDigits 10 n).length ≠ 1) := by
    rintro ⟨zero, long⟩
    rcases Nat.eq_zero_or_pos n with rfl | positive
    · exact long rfl
    · exact head_toDigits positive zero
  have read : readNat 10 (Nat.toDigits 10 n) = some n := readNat_toDigits (by decide) (by decide) n
  have trimmed := trimEnd_of_solid solid
  generalize Nat.toDigits 10 n = digits at digit solid leading read trimmed ⊢
  cases digits with
  | nil => cases read
  | cons c rest =>
    have starts : ∀ d, d.isDigit = false → c ≠ d := by
      rintro d other rfl
      cases other.symm.trans (digit _ List.mem_cons_self)
    have yes : c :: rest ≠ "true".toList := fun same => starts 't' (by decide) (List.cons.inj same).1
    have no : c :: rest ≠ "false".toList := fun same => starts 'f' (by decide) (List.cons.inj same).1
    have unbroken : '\n' ∉ c :: rest := fun member => by cases digit _ member
    refine means_pair field (solid c List.mem_cons_self) unbroken ?_
    rw [readValue, if_neg (starts '"' (by decide)), trimmed]
    dsimp only
    rw [if_neg yes, if_neg no, readInteger, if_neg leading, read]
    rfl

/-- **A document is read by its lines.** -/
theorem read_intercalate {lines : List (List Char)} {meanings : List Line} (filled : lines ≠ [])
    (means : List.Forall₂ Means lines meanings) (tables : (tablesOf meanings).Nodup)
    (keys : ((entriesOf [] meanings).map fun entry => (entry.table, entry.key)).Nodup) :
    read (['\n'].intercalate lines) = some ⟨tablesOf meanings, entriesOf [] meanings⟩ := by
  obtain ⟨unbroken, reads⟩ := (List.forall₂_and_left _ _).mp means
  rw [read, List.splitOn_intercalate '\n' unbroken filled, mapM_of_forall₂ reads]
  exact if_pos ⟨tables, keys⟩

end Library.Toml
