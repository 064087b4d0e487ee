import TenantAccess.Sql.TenantFilter

/-! How the condition of a query is read. Its text falls into words, operators, marks and quotations, and these
into comparisons, which AND joins more tightly than OR. What stands between quotes joins nothing, and neither does
the AND of a BETWEEN. Conditions with parentheses or brackets are not read here. -/

namespace TenantAccess.Proofs.Condition

inductive Quote where
  | name
  | literal
  deriving DecidableEq, Repr

def Quote.sign : Quote → Char
  | .name => '"'
  | .literal => Char.ofNat 39

def quotes : List Quote := [.name, .literal]

def quote? (c : Char) : Option Quote := quotes.find? (·.sign == c)

inductive Lexeme where
  | quoted (quote : Quote) (text : List Char)
  | word (text : List Char)
  | operator (text : List Char)
  | mark (sign : Char)
  deriving DecidableEq, Repr

def blanks : List Char := [' ', '\t', '\n', '\r', Char.ofNat 11, Char.ofNat 12]

def operatorSigns : List Char := "+-*/<>=~!@#%^&|`?".toList

def marks : List Char := ",.:".toList

def brackets : List Char := "()[]\x7b\x7d;\\".toList

/-- Key words, plain names, numbers and placeholders are made of all other signs. -/
def isWordSign (c : Char) : Bool := !(blanks ++ operatorSigns ++ marks ++ brackets ++ quotes.map Quote.sign).contains c

inductive Reader where
  | between
  | word (text : List Char)
  | operator (text : List Char)
  | mark (sign : Char)
  | inside (quote : Quote) (text : List Char)
  /-- The quotation ends with the sign just read, unless the sign is written twice. -/
  | closing (quote : Quote) (text : List Char)
  | refused
  deriving DecidableEq, Repr

namespace Reader

/-- A sign that goes on with what came before it. A quotation right behind a word has rules of its own and is
refused. -/
def further : Reader → Char → Option Reader
  | .word text, c =>
    if isWordSign c then some (.word (text ++ [c])) else if (quote? c).isSome then some .refused else none
  | .operator text, c => if operatorSigns.contains c then some (.operator (text ++ [c])) else none
  | .inside quote text, c => some (if c = quote.sign then .closing quote text else .inside quote (text ++ [c]))
  | .closing quote text, c => if c = quote.sign then some (.inside quote (text ++ [c])) else none
  | .refused, _ => some .refused
  | .between, _ | .mark _, _ => none

def opening (c : Char) : Reader :=
  if blanks.contains c then .between
  else if isWordSign c then .word [c]
  else if operatorSigns.contains c then .operator [c]
  else if marks.contains c then .mark c
  else match quote? c with
    | some quote => .inside quote []
    | none => .refused

/-- What is read when the text ends here. -/
def ended? : Reader → Option (List Lexeme)
  | .between => some []
  | .word text => some [.word text]
  | .operator text => some [.operator text]
  | .mark sign => some [.mark sign]
  | .closing quote text => some [.quoted quote text]
  | .inside .. | .refused => none

end Reader

structure Scan where
  found : List Lexeme
  reader : Reader
  deriving DecidableEq, Repr

def Scan.step (scan : Scan) (c : Char) : Scan :=
  match scan.reader.further c with
  | some reader => ⟨scan.found, reader⟩
  | none => ⟨scan.found ++ scan.reader.ended?.getD [], .opening c⟩

def Scan.through? (scan : Scan) (text : List Char) : Option (List Lexeme) :=
  let last := text.foldl Scan.step scan
  last.reader.ended?.map (last.found ++ ·)

def lexemes? (text : List Char) : Option (List Lexeme) := Scan.through? ⟨[], .between⟩ text

theorem step_blank {scan : Scan} {last : List Lexeme} (ended : scan.reader.ended? = some last) :
    scan.step ' ' = ⟨scan.found ++ last, .between⟩ := by
  obtain ⟨found, reader⟩ := scan
  cases reader with
  | between | word | operator | mark =>
    cases ended
    rfl
  | closing quote text =>
    cases ended
    cases quote <;> rfl
  | inside | refused => cases ended

theorem through?_found (before found : List Lexeme) (reader : Reader) (text : List Char) :
    Scan.through? ⟨before ++ found, reader⟩ text = (Scan.through? ⟨found, reader⟩ text).map (before ++ ·) := by
  induction text generalizing found reader with
  | nil => simp [Scan.through?, Function.comp_def]
  | cons c rest ih =>
    change (Scan.step ⟨before ++ found, reader⟩ c).through? rest = ((Scan.step ⟨found, reader⟩ c).through? rest).map _
    rw [Scan.step, Scan.step]
    cases reader.further c with
    | some later => exact ih found later
    | none =>
      rw [List.append_assoc]
      exact ih _ _

theorem through?_again (found : List Lexeme) (text : List Char) :
    Scan.through? ⟨found, .between⟩ text = (lexemes? text).map (found ++ ·) := by
  have whole := through?_found found [] .between text
  rwa [List.append_nil] at whole

theorem through?_mark (found : List Lexeme) (c : Char) (text : List Char) :
    Scan.through? ⟨found, .mark c⟩ text = Scan.through? ⟨found ++ [.mark c], .between⟩ text := by
  cases text with
  | nil => simp [Scan.through?, Reader.ended?]
  | cons next rest =>
    have same : Scan.step ⟨found, .mark c⟩ next = Scan.step ⟨found ++ [.mark c], .between⟩ next := by
      simp [Scan.step, Reader.further, Reader.ended?]
    rw [Scan.through?, Scan.through?, List.foldl_cons, List.foldl_cons, same]

theorem lexemes?_append (first rest : List Char) (c : Char) :
    lexemes? (first ++ c :: rest) = ((first.foldl Scan.step ⟨[], .between⟩).step c).through? rest := by
  rw [lexemes?, Scan.through?, List.foldl_append]
  rfl

theorem lexemes?_blank {first : List Char} {early : List Lexeme} (read : lexemes? first = some early)
    (rest : List Char) : lexemes? (first ++ ' ' :: rest) = (lexemes? rest).map (early ++ ·) := by
  obtain ⟨last, ended, rfl⟩ := Option.map_eq_some_iff.mp read
  rw [lexemes?_append, step_blank ended, through?_again]

theorem step_mark {scan : Scan} {last : List Lexeme} {c : Char} (marked : c ∈ marks)
    (ended : scan.reader.ended? = some last) : scan.step c = ⟨scan.found ++ last, .mark c⟩ := by
  obtain ⟨found, reader⟩ := scan
  have known : c = ',' ∨ c = '.' ∨ c = ':' := by simpa [marks] using marked
  rcases known with rfl | rfl | rfl <;> cases reader with
  | between | word | operator | mark =>
    cases ended
    rfl
  | closing quote text =>
    cases ended
    cases quote <;> rfl
  | inside | refused => cases ended

theorem lexemes?_mark {first : List Char} {early : List Lexeme} {c : Char} (read : lexemes? first = some early)
    (marked : c ∈ marks) (rest : List Char) :
    lexemes? (first ++ c :: rest) = (lexemes? rest).map (early ++ .mark c :: ·) := by
  obtain ⟨last, ended, rfl⟩ := Option.map_eq_some_iff.mp read
  rw [lexemes?_append, step_mark marked ended, through?_mark, through?_again]
  simp

theorem lexemes?_around {first second key : List Char} {early late : List Lexeme} {sign : Lexeme}
    (read : lexemes? first = some early) (keyed : lexemes? key = some [sign]) (behind : lexemes? second = some late) :
    lexemes? (first ++ ' ' :: (key ++ ' ' :: second)) = some (early ++ sign :: late) := by
  rw [lexemes?_blank read, lexemes?_blank keyed, behind]
  rfl

def Lexeme.is (key : String) : Lexeme → Bool
  | .word text => text.map Char.toUpper == key.toList
  | _ => false

/-- Words that end a condition or that AND and OR stand inside of. -/
def foreignWords : List String :=
  ["CASE", "EXCEPT", "FETCH", "FOR", "GROUP", "HAVING", "INTERSECT", "LIMIT", "OFFSET", "ORDER", "RETURNING",
    "UNION", "WHERE", "WINDOW"]

def isNumberSign (c : Char) : Bool := "0123456789_abcdefoxABCDEFOX".toList.contains c

/-- No dollar begins a word but that of a placeholder, and nothing else runs on into a number. -/
def isPlainWord : List Char → Bool
  | '$' :: digits => !digits.isEmpty && digits.all Char.isDigit
  | first :: rest => !first.isDigit || rest.all isNumberSign
  | [] => true

/-- Two signs begin a comment, wherever they stand in an operator. -/
def isComment : List Char → Bool
  | '-' :: '-' :: _ => true
  | '/' :: '*' :: _ => true
  | _ :: rest => isComment rest
  | [] => false

/-- What a condition may hold: no comment, and no word that is not its own. -/
def Lexeme.isPlain : Lexeme → Bool
  | .word text => isPlainWord text && foreignWords.all fun key => !(Lexeme.word text).is key
  | .operator text => !isComment text
  | .quoted .. | .mark _ => true

inductive Sign where
  | part (lexeme : Lexeme)
  | all
  | any
  deriving DecidableEq, Repr

/-- What a lexeme is for what it stands behind. While the upper bound of a BETWEEN is missing, AND leads to it. -/
def Lexeme.sign? (bound : Bool) (lexeme : Lexeme) : Option (Sign × Bool) :=
  if lexeme.is "BETWEEN" then if bound then none else some (.part lexeme, true)
  else if lexeme.is "AND" then some (if bound then .part lexeme else .all, false)
  else if lexeme.is "OR" then if bound then none else some (.any, false)
  else some (.part lexeme, bound)

def signs? (bound : Bool) : List Lexeme → Option (List Sign)
  | [] => if bound then none else some []
  | lexeme :: rest => (lexeme.sign? bound).bind fun (sign, later) => (signs? later rest).map (sign :: ·)

abbrev Comparison := List Lexeme

/-- The alternatives of a condition, each of them comparisons that hold together. -/
abbrev Reading := List (List Comparison)

def push : Sign → Reading → Reading
  | .any, reading => [[]] :: reading
  | .all, alternative :: rest => ([] :: alternative) :: rest
  | .part lexeme, (comparison :: others) :: rest => ((lexeme :: comparison) :: others) :: rest
  | _, reading => reading

def arrange (signs : List Sign) : Reading := signs.foldr push [[[]]]

def read? (text : List Char) : Option Reading := do
  let lexemes ← lexemes? text
  let signs ← signs? false lexemes
  if lexemes.all Lexeme.isPlain && !(arrange signs).flatten.contains [] then some (arrange signs) else none

/-- Two conditions with AND between them and no parentheses: the last alternative of the one and the first of the
other become one. -/
def meet : Reading → Reading → Reading
  | [last], alternative :: rest => (last ++ alternative) :: rest
  | alternative :: others, second => alternative :: meet others second
  | [], second => second

theorem signs?_cons {bound later : Bool} {lexeme : Lexeme} {sign : Sign}
    (signed : lexeme.sign? bound = some (sign, later)) (rest : List Lexeme) :
    signs? bound (lexeme :: rest) = (signs? later rest).map (sign :: ·) := by
  rw [signs?, signed]
  rfl

theorem signs?_append {bound : Bool} {first second : List Lexeme} {early : List Sign}
    (read : signs? bound first = some early) :
    signs? bound (first ++ second) = (signs? false second).map (early ++ ·) := by
  induction first generalizing bound early with
  | nil =>
    cases bound <;> cases read
    simp
  | cons lexeme rest ih =>
    obtain ⟨⟨sign, later⟩, signed, mapped⟩ := Option.bind_eq_some_iff.mp read
    obtain ⟨others, behind, rfl⟩ := Option.map_eq_some_iff.mp mapped
    rw [List.cons_append, signs?_cons signed, ih behind, Option.map_map]
    rfl

/-- Lexemes that neither join nor bound anything are parts of one comparison. -/
theorem signs?_parts {lexemes : List Lexeme}
    (plain : ∀ lexeme ∈ lexemes, ∀ key ∈ ["BETWEEN", "AND", "OR"], lexeme.is key = false) :
    signs? false lexemes = some (lexemes.map .part) := by
  induction lexemes with
  | nil => rfl
  | cons lexeme rest ih =>
    obtain ⟨first, others⟩ := List.forall_mem_cons.mp plain
    have signed : lexeme.sign? false = some (.part lexeme, false) := by
      simp [Lexeme.sign?, first]
    rw [signs?_cons signed, ih others]
    rfl

/-- A reading has an alternative, and that a comparison, though nothing may have been read of it. -/
theorem arrange_begun (signs : List Sign) :
    ∃ comparison others rest, arrange signs = (comparison :: others) :: rest := by
  induction signs with
  | nil => exact ⟨[], [], [], rfl⟩
  | cons sign later ih =>
    obtain ⟨comparison, others, rest, same⟩ := ih
    unfold arrange at same ⊢
    rw [List.foldr_cons, same]
    cases sign with
    | part lexeme => exact ⟨_, _, _, rfl⟩
    | all => exact ⟨_, _, _, rfl⟩
    | any => exact ⟨_, _, _, rfl⟩

theorem arrange_all (first second : List Sign) :
    arrange (first ++ .all :: second) = meet (arrange first) (arrange second) := by
  induction first with
  | nil =>
    obtain ⟨comparison, others, rest, same⟩ := arrange_begun second
    change push .all (arrange second) = meet [[[]]] (arrange second)
    rw [same]
    rfl
  | cons sign later ih =>
    obtain ⟨comparison, others, rest, same⟩ := arrange_begun later
    obtain ⟨behind, more, last, further⟩ := arrange_begun second
    change push sign (arrange (later ++ .all :: second)) = meet (push sign (arrange later)) (arrange second)
    rw [ih, same, further]
    cases sign <;> cases rest <;> rfl

theorem arrange_any (first second : List Sign) :
    arrange (first ++ .any :: second) = arrange first ++ arrange second := by
  induction first with
  | nil => rfl
  | cons sign later ih =>
    obtain ⟨comparison, others, rest, same⟩ := arrange_begun later
    change push sign (arrange (later ++ .any :: second)) = push sign (arrange later) ++ arrange second
    rw [ih, same]
    cases sign <;> rfl

theorem arrange_parts (lexemes : List Lexeme) : arrange (lexemes.map .part) = [[lexemes]] := by
  induction lexemes with
  | nil => rfl
  | cons lexeme rest ih =>
    change push (.part lexeme) (arrange (rest.map .part)) = _
    rw [ih]
    rfl

theorem meet_flatten (first : Reading) {second : Reading} (begun : second ≠ []) :
    (meet first second).flatten = first.flatten ++ second.flatten := by
  induction first with
  | nil => rfl
  | cons alternative others ih =>
    cases others with
    | nil =>
      obtain ⟨next, rest, rfl⟩ := List.exists_cons_of_ne_nil begun
      simp [meet]
    | cons other more => simp [meet, ih]

structure Reads (text : List Char) (lexemes : List Lexeme) (signs : List Sign) : Prop where
  scanned : lexemes? text = some lexemes
  plain : ∀ lexeme ∈ lexemes, lexeme.isPlain = true
  joined : signs? false lexemes = some signs
  full : [] ∉ (arrange signs).flatten

theorem read?_some (text : List Char) (reading : Reading) :
    read? text = some reading ↔ ∃ lexemes signs, Reads text lexemes signs ∧ arrange signs = reading := by
  simp only [read?, Option.bind_eq_bind, Option.bind_eq_some_iff, Option.ite_none_right_eq_some,
    Option.some.injEq, Bool.and_eq_true, List.all_eq_true, Bool.not_eq_true', List.contains_eq_mem,
    decide_eq_false_iff_not]
  constructor
  · rintro ⟨lexemes, scanned, signs, joined, ⟨plain, full⟩, same⟩
    exact ⟨lexemes, signs, ⟨scanned, plain, joined, full⟩, same⟩
  · rintro ⟨lexemes, signs, ⟨scanned, plain, joined, full⟩, same⟩
    exact ⟨lexemes, scanned, signs, joined, ⟨plain, full⟩, same⟩

theorem read?_begun {text : List Char} {reading : Reading} (read : read? text = some reading) : reading ≠ [] := by
  obtain ⟨lexemes, signs, -, rfl⟩ := (read?_some ..).mp read
  obtain ⟨comparison, others, rest, same⟩ := arrange_begun signs
  simp [same]

section
variable {first second : List Char} {early late : Reading}

theorem Reads.around {key : List Char} {sign : Sign} {lexemes later : List Lexeme} {signs others : List Sign}
    (reads : Reads first lexemes signs) (follows : Reads second later others)
    (keyed : lexemes? key = some [.word key]) (plain : (Lexeme.word key).isPlain = true)
    (joins : (Lexeme.word key).sign? false = some (sign, false))
    (full : [] ∉ (arrange (signs ++ sign :: others)).flatten) :
    Reads (first ++ ' ' :: (key ++ ' ' :: second)) (lexemes ++ .word key :: later) (signs ++ sign :: others) where
  scanned := lexemes?_around reads.scanned keyed follows.scanned
  plain := List.forall_mem_append.mpr ⟨reads.plain, List.forall_mem_cons.mpr ⟨plain, follows.plain⟩⟩
  joined := by
    rw [signs?_append reads.joined, signs?_cons joins, follows.joined]
    rfl
  full := full

theorem read?_and (read : read? first = some early) (behind : read? second = some late) :
    read? (first ++ " AND ".toList ++ second) = some (meet early late) := by
  have begun := read?_begun behind
  obtain ⟨lexemes, signs, reads, rfl⟩ := (read?_some ..).mp read
  obtain ⟨later, others, follows, rfl⟩ := (read?_some ..).mp behind
  have full : [] ∉ (arrange (signs ++ .all :: others)).flatten := by
    rw [arrange_all, meet_flatten _ begun, List.mem_append]
    exact not_or.mpr ⟨reads.full, follows.full⟩
  have keyed : lexemes? "AND".toList = some [.word "AND".toList] := by decide
  rw [List.append_assoc, read?_some]
  exact ⟨_, _, reads.around follows keyed (by decide) (by decide) full, arrange_all signs others⟩

theorem read?_or (read : read? first = some early) (behind : read? second = some late) :
    read? (first ++ " OR ".toList ++ second) = some (early ++ late) := by
  obtain ⟨lexemes, signs, reads, rfl⟩ := (read?_some ..).mp read
  obtain ⟨later, others, follows, rfl⟩ := (read?_some ..).mp behind
  have full : [] ∉ (arrange (signs ++ .any :: others)).flatten := by
    rw [arrange_any, List.flatten_append, List.mem_append]
    exact not_or.mpr ⟨reads.full, follows.full⟩
  have keyed : lexemes? "OR".toList = some [.word "OR".toList] := by decide
  rw [List.append_assoc, read?_some]
  exact ⟨_, _, reads.around follows keyed (by decide) (by decide) full, arrange_any signs others⟩

end

/-- The second condition binds its own alternative only. -/
example : (read? "a = $1 OR b = 'x AND y' AND c IS NULL".toList).map (·.map List.length) = some [1, 2] := by
  decide +kernel

/-- The condition is met when all comparisons of one alternative come to true. What comes to null is not true, and
neither connective makes it so. -/
def Met (holds : Comparison → Prop) (reading : Reading) : Prop :=
  ∃ alternative ∈ reading, ∀ comparison ∈ alternative, holds comparison

/-- A clause is the word WHERE and a condition behind it. -/
def readClause? (clause : List Char) : Option Reading := ("WHERE ".toList.isPrefixOf? clause).bind read?

end TenantAccess.Proofs.Condition
