import TenantAccess.Proofs.ClauseReading
import Mathlib.Data.List.Forall2

/-! Rows of other tenants. The condition on the tenant's organization stands behind the conditions given before, and
nothing but AND stands between them. So it binds no alternative of those but the last one. -/

namespace TenantAccess.Proofs.Condition

/-- The parts of a column's name, without the quotes they may be given in. -/
def partsOf (column : String) : List (List Char) :=
  (column.toList.splitOn '.').map fun part => Sql.unwrap (Text.trimmed part)

def placeholder (position : Nat) : Lexeme := .word ('$' :: (toString position).toList)

/-- That a column holds what is bound to a placeholder. -/
def equation (names : List (List Char)) (position : Nat) : Comparison :=
  (names.map (.quoted .name)).intersperse (.mark '.') ++ [.operator ['='], placeholder position]

theorem quoteParts_all {parts quoted : List (List Char)} (done : Sql.quoteParts parts = .ok quoted) :
    quoted = parts.map fun part => Sql.quoted (Sql.unwrap (Text.trimmed part)) := by
  induction parts generalizing quoted with
  | nil =>
    cases done
    rfl
  | cons part rest ih =>
    unfold Sql.quoteParts Sql.quotePart at done
    split at done
    · cases done
    next first single =>
      split at done
      · cases done
      next others later =>
        cases done
        rw [ih later]
        split at single
        · cases single
        · cases single
          rfl

theorem quoteIdentifier_parts {column written : String} (done : Sql.quoteIdentifier column = .ok written) :
    written.toList = ['.'].intercalate ((partsOf column).map Sql.quoted) := by
  unfold Sql.quoteIdentifier at done
  split at done
  · cases done
  next parts quoted =>
    cases done
    rw [String.toList_ofList, quoteParts_all quoted, partsOf, List.map_map]
    rfl

theorem scan_name (name text : List Char) (found : List Lexeme) :
    (Sql.doubleQuotes name).foldl Scan.step ⟨found, .inside .name text⟩ = ⟨found, .inside .name (text ++ name)⟩ := by
  induction name generalizing text with
  | nil => simp [Sql.doubleQuotes]
  | cons c rest ih =>
    have next := ih (text ++ [c])
    rw [List.append_assoc] at next
    unfold Sql.doubleQuotes at next ⊢
    rw [List.flatMap_cons, List.foldl_append]
    by_cases doubled : c = '"'
    · subst doubled
      exact next
    · have kept : Scan.step ⟨found, .inside .name text⟩ c = ⟨found, .inside .name (text ++ [c])⟩ := by
        simp [Scan.step, Reader.further, Quote.sign, doubled]
      rw [if_neg doubled, List.foldl_cons, List.foldl_nil, kept]
      exact next

theorem lexemes?_quoted (name : List Char) : lexemes? (Sql.quoted name) = some [.quoted .name name] := by
  have opened : Scan.step ⟨[], .between⟩ '"' = ⟨[], .inside .name []⟩ := by decide
  have closed : Scan.step ⟨[], .inside .name name⟩ '"' = ⟨[], .closing .name name⟩ := rfl
  have whole := scan_name name [] []
  rw [List.nil_append] at whole
  rw [lexemes?, Scan.through?, Sql.quoted, List.cons_append, List.foldl_cons, opened, List.foldl_append, whole,
    List.foldl_cons, closed]
  rfl

theorem lexemes?_names (names : List (List Char)) :
    lexemes? (['.'].intercalate (names.map Sql.quoted)) =
      some ((names.map (Lexeme.quoted .name)).intersperse (.mark '.')) := by
  induction names with
  | nil => rfl
  | cons name rest ih =>
    cases rest with
    | nil =>
      rw [List.map_singleton, List.intercalate_singleton, lexemes?_quoted]
      rfl
    | cons next others =>
      rw [List.map_cons, List.map_cons, List.intercalate_cons_cons, List.append_assoc, List.singleton_append,
        lexemes?_mark (lexemes?_quoted name) (by decide), ← List.map_cons, ih]
      rfl

theorem scan_word {text : List Char} (signs : ∀ c ∈ text, isWordSign c = true) (before : List Char) :
    text.foldl Scan.step ⟨[], .word before⟩ = ⟨[], .word (before ++ text)⟩ := by
  induction text generalizing before with
  | nil => simp
  | cons c rest ih =>
    obtain ⟨first, others⟩ := List.forall_mem_cons.mp signs
    have kept : Scan.step ⟨[], .word before⟩ c = ⟨[], .word (before ++ [c])⟩ := by
      simp [Scan.step, Reader.further, first]
    rw [List.foldl_cons, kept, ih others, List.append_assoc]
    rfl

theorem isWordSign_digit {c : Char} (digit : c.isDigit = true) : isWordSign c = true := by
  have others : (blanks ++ operatorSigns ++ marks ++ brackets ++ quotes.map Quote.sign).all (!·.isDigit) = true := by
    decide
  unfold isWordSign
  rw [Bool.not_eq_true', List.contains_eq_mem, decide_eq_false_iff_not]
  intro inside
  have other := List.all_eq_true.mp others c inside
  rw [digit] at other
  cases other

theorem toString_digits (position : Nat) : ∀ c ∈ (toString position).toList, c.isDigit = true := by
  intro c inside
  rw [Nat.toString_eq_repr, Nat.toList_repr] at inside
  exact Nat.isDigit_of_mem_toDigits (by decide) (by decide) inside

theorem lexemes?_placeholder (position : Nat) :
    lexemes? ('$' :: (toString position).toList) = some [placeholder position] := by
  have opened : Scan.step ⟨[], .between⟩ '$' = ⟨[], .word ['$']⟩ := by decide
  have signs : ∀ c ∈ (toString position).toList, isWordSign c = true :=
    fun c inside => isWordSign_digit (toString_digits position c inside)
  rw [lexemes?, Scan.through?, List.foldl_cons, opened, scan_word signs]
  rfl

/-- No key word begins with a dollar. -/
theorem placeholder_apart (position : Nat) {key : String} (listed : key ∈ foreignWords ++ ["BETWEEN", "AND", "OR"]) :
    (placeholder position).is key = false := by
  have heads : ∀ key ∈ foreignWords ++ ["BETWEEN", "AND", "OR"], key.toList.head? ≠ some '$' := by decide
  rw [placeholder, Lexeme.is, beq_eq_false_iff_ne]
  intro same
  refine heads key listed ?_
  rw [← same]
  rfl

theorem placeholder_plain (position : Nat) : (placeholder position).isPlain = true := by
  have digits : (toString position).toList ≠ [] := by
    rw [Nat.toString_eq_repr, Nat.toList_repr]
    exact Nat.toDigits_ne_nil
  have written : isPlainWord ('$' :: (toString position).toList) = true := by
    rw [isPlainWord, Bool.and_eq_true, List.all_eq_true, Bool.not_eq_true', List.isEmpty_eq_false_iff]
    exact ⟨digits, toString_digits position⟩
  rw [placeholder, Lexeme.isPlain, written, Bool.true_and, List.all_eq_true]
  intro key listed
  rw [Bool.not_eq_true']
  exact placeholder_apart position (List.mem_append_left _ listed)

theorem dotted_members {names : List (List Char)} {lexeme : Lexeme}
    (inside : lexeme ∈ (names.map (Lexeme.quoted .name)).intersperse (.mark '.')) :
    (∃ name, lexeme = .quoted .name name) ∨ lexeme = .mark '.' := by
  induction names with
  | nil => cases inside
  | cons name rest ih =>
    cases rest with
    | nil => exact .inl ⟨name, List.mem_singleton.mp inside⟩
    | cons next others =>
      rw [List.map_cons, List.map_cons, List.intersperse_cons_cons] at inside
      rcases List.mem_cons.mp inside with rfl | inside
      · exact .inl ⟨name, rfl⟩
      rcases List.mem_cons.mp inside with rfl | inside
      · exact .inr rfl
      · exact ih inside

def Lexeme.name? : Lexeme → Option (List Char)
  | .quoted .name text => some text
  | _ => none

theorem dotted_names (names : List (List Char)) :
    ((names.map (Lexeme.quoted .name)).intersperse (.mark '.')).filterMap Lexeme.name? = names := by
  induction names with
  | nil => rfl
  | cons name rest ih =>
    cases rest with
    | nil => rfl
    | cons next others =>
      rw [List.map_cons] at ih
      rw [List.map_cons, List.map_cons, List.intersperse_cons_cons, List.filterMap_cons, List.filterMap_cons]
      exact congrArg (name :: ·) ih

theorem equation_inj {names others : List (List Char)} {position place : Nat}
    (same : equation names position = equation others place) : names = others ∧ position = place := by
  obtain ⟨columns, ends⟩ := List.append_inj' same rfl
  obtain ⟨-, places⟩ := List.cons.inj ends
  have digits := (List.cons.inj (Lexeme.word.inj (List.cons.inj places).1)).2
  have read := congrArg (List.filterMap Lexeme.name?) columns
  rw [dotted_names, dotted_names] at read
  rw [Nat.toString_eq_repr, Nat.toString_eq_repr, Nat.toList_repr, Nat.toList_repr] at digits
  have counted := congrArg (Nat.ofDigitChars 10 · 0) digits
  rw [Nat.ofDigitChars_toDigits (by decide) (by decide), Nat.ofDigitChars_toDigits (by decide) (by decide)] at counted
  exact ⟨read, counted⟩

theorem equation_reads (names : List (List Char)) (position : Nat) :
    read? (['.'].intercalate (names.map Sql.quoted) ++ " = $".toList ++ (toString position).toList) =
      some [[equation names position]] := by
  have compared : lexemes? ['='] = some [.operator ['=']] := by decide
  have scanned := lexemes?_around (lexemes?_names names) compared (lexemes?_placeholder position)
  rw [List.append_assoc, read?_some]
  refine ⟨_, (equation names position).map .part, ⟨scanned, ?_, ?_, ?_⟩, arrange_parts _⟩
  · intro lexeme inside
    rcases List.mem_append.mp inside with inside | inside
    · rcases dotted_members inside with ⟨name, rfl⟩ | rfl <;> rfl
    rcases List.mem_cons.mp inside with rfl | inside
    · decide
    · rw [List.mem_singleton.mp inside]
      exact placeholder_plain position
  · refine signs?_parts fun lexeme inside key listed => ?_
    rcases List.mem_append.mp inside with inside | inside
    · rcases dotted_members inside with ⟨name, rfl⟩ | rfl <;> rfl
    rcases List.mem_cons.mp inside with rfl | inside
    · rfl
    · rw [List.mem_singleton.mp inside]
      exact placeholder_apart position (List.mem_append_right _ listed)
  · rw [arrange_parts]
    simp [equation]

def chain (join : Reading → Reading → Reading) : List Reading → Reading
  | [] => []
  | [last] => last
  | reading :: rest => join reading (chain join rest)

theorem chain_reads {separator : List Char} {join : Reading → Reading → Reading}
    (joins : ∀ {first second : List Char} {early late : Reading}, read? first = some early →
      read? second = some late → read? (first ++ separator ++ second) = some (join early late))
    {texts : List (List Char)} {readings : List Reading}
    (reads : List.Forall₂ (fun text reading => read? text = some reading) texts readings) (given : texts ≠ []) :
    read? (separator.intercalate texts) = some (chain join readings) := by
  induction reads with
  | nil => exact absurd rfl given
  | cons first later ih =>
    cases later with
    | nil =>
      rw [List.intercalate_singleton]
      exact first
    | cons second others =>
      rw [List.intercalate_cons_cons]
      exact joins first (ih (List.cons_ne_nil _ _))

theorem chain_last (join : Reading → Reading → Reading) (readings : List Reading) (last : Reading) :
    chain join (readings ++ [last]) = readings.foldr join last := by
  induction readings with
  | nil => rfl
  | cons reading rest ih =>
    rw [List.foldr_cons, ← ih]
    cases rest <;> rfl

theorem chain_meet {comparisons : List Comparison} (given : comparisons ≠ []) :
    chain meet (comparisons.map fun comparison => [[comparison]]) = [comparisons] := by
  induction comparisons with
  | nil => exact absurd rfl given
  | cons comparison rest ih =>
    cases rest with
    | nil => rfl
    | cons next others => exact congrArg (meet [[comparison]]) (ih (List.cons_ne_nil _ _))

theorem chain_append (comparisons : List Comparison) :
    chain (· ++ ·) (comparisons.map fun comparison => [[comparison]]) =
      comparisons.map fun comparison => [comparison] := by
  induction comparisons with
  | nil => rfl
  | cons comparison rest ih =>
    cases rest with
    | nil => rfl
    | cons next others => exact congrArg ([[comparison]] ++ ·) ih

def Atomic (text : String) (comparison : Comparison) : Prop := read? text.toList = some [[comparison]]

instance (text : String) (comparison : Comparison) : Decidable (Atomic text comparison) :=
  inferInstanceAs (Decidable (read? text.toList = some [[comparison]]))

/-- The texts that conditions are given in: comparisons with AND between them all, or with OR. -/
inductive Formed : String → Reading → Prop where
  | all {atoms : List String} {comparisons : List Comparison} (each : List.Forall₂ Atomic atoms comparisons)
      (given : atoms ≠ []) : Formed (" AND ".intercalate atoms) [comparisons]
  | any {atoms : List String} {comparisons : List Comparison} (each : List.Forall₂ Atomic atoms comparisons)
      (given : atoms ≠ []) : Formed (" OR ".intercalate atoms) (comparisons.map fun comparison => [comparison])

theorem Formed.reads {text : String} {reading : Reading} (formed : Formed text reading) :
    read? text.toList = some reading := by
  have alone {atoms : List String} {comparisons : List Comparison} (each : List.Forall₂ Atomic atoms comparisons) :
      List.Forall₂ (fun text reading => read? text = some reading) (atoms.map String.toList)
        (comparisons.map fun comparison => [[comparison]]) := by
    rw [List.forall₂_map_left_iff, List.forall₂_map_right_iff]
    exact each
  cases formed with
  | @all atoms comparisons each given =>
    have some : comparisons ≠ [] := by
      rintro rfl
      cases each
      exact given rfl
    rw [String.toList_intercalate, ← chain_meet some]
    exact chain_reads read?_and (alone each) (by simpa using given)
  | any each given =>
    rw [String.toList_intercalate, ← chain_append]
    exact chain_reads read?_or (alone each) (by simpa using given)

theorem meet_met {holds : Comparison → Prop} {first second : Reading} (one : Met holds first)
    (other : Met holds second) : Met holds (meet first second) := by
  induction first with
  | nil => exact other
  | cons alternative others ih =>
    obtain ⟨chosen, inside, true⟩ := one
    cases others with
    | nil =>
      obtain rfl := List.mem_singleton.mp inside
      obtain ⟨next, among, behind⟩ := other
      cases second with
      | nil => cases among
      | cons alternative rest =>
        rcases List.mem_cons.mp among with rfl | among
        · exact ⟨_, List.mem_cons_self, List.forall_mem_append.mpr ⟨true, behind⟩⟩
        · exact ⟨next, List.mem_cons_of_mem _ among, behind⟩
    | cons next more =>
      rcases List.mem_cons.mp inside with rfl | inside
      · exact ⟨chosen, List.mem_cons_self, true⟩
      · obtain ⟨met, among, behind⟩ := ih ⟨chosen, inside, true⟩
        exact ⟨met, List.mem_cons_of_mem _ among, behind⟩

section
variable {readings : List Reading} {own : Comparison}

theorem whole_met {holds : Comparison → Prop} (given : ∀ reading ∈ readings, Met holds reading) (owned : holds own) :
    Met holds (readings.foldr meet [[own]]) := by
  induction readings with
  | nil => exact ⟨[own], List.mem_cons_self, List.forall_mem_singleton.mpr owned⟩
  | cons reading rest ih =>
    obtain ⟨first, others⟩ := List.forall_mem_cons.mp given
    exact meet_met first (ih others)

/-- Conditions of one alternative each come to one alternative, which holds them all. -/
theorem whole_single (single : ∀ reading ∈ readings, reading.length = 1) :
    ∃ comparisons, readings.foldr meet [[own]] = [comparisons] ∧ ∀ holds : Comparison → Prop,
      (∀ comparison ∈ comparisons, holds comparison) ↔ (∀ reading ∈ readings, Met holds reading) ∧ holds own := by
  induction readings with
  | nil => exact ⟨[own], rfl, fun holds => by simp⟩
  | cons reading rest ih =>
    obtain ⟨first, others⟩ := List.forall_mem_cons.mp single
    obtain ⟨alternative, rfl⟩ := List.length_eq_one_iff.mp first
    obtain ⟨comparisons, same, meaning⟩ := ih others
    refine ⟨alternative ++ comparisons, by rw [List.foldr_cons, same]; rfl, fun holds => ?_⟩
    have alone : Met holds [alternative] ↔ ∀ comparison ∈ alternative, holds comparison := by simp [Met]
    rw [List.forall_mem_append, meaning holds, List.forall_mem_cons, alone, and_assoc]

/-- A condition of several alternatives keeps one of them free of what comes behind. -/
theorem whole_loose (begun : ∀ reading ∈ readings, reading ≠ [])
    (several : ¬ ∀ reading ∈ readings, reading.length = 1) :
    ∃ alternative ∈ readings.foldr meet [[own]], ∀ comparison ∈ alternative, ∃ reading ∈ readings,
      comparison ∈ reading.flatten := by
  induction readings with
  | nil => exact absurd nofun several
  | cons reading rest ih =>
    obtain ⟨first, others⟩ := List.forall_mem_cons.mp begun
    obtain ⟨alternative, more, rfl⟩ := List.exists_cons_of_ne_nil first
    cases more with
    | nil =>
      obtain ⟨loose, among, given⟩ := ih others fun single => several (List.forall_mem_cons.mpr ⟨rfl, single⟩)
      have known : ∀ comparison ∈ loose, ∃ reading ∈ [alternative] :: rest, comparison ∈ reading.flatten :=
        fun comparison inside => by
          obtain ⟨reading, listed, held⟩ := given comparison inside
          exact ⟨reading, List.mem_cons_of_mem _ listed, held⟩
      rw [List.foldr_cons]
      cases whole : rest.foldr meet [[own]] with
      | nil =>
        rw [whole] at among
        cases among
      | cons next later =>
        rw [whole] at among
        rcases List.mem_cons.mp among with rfl | among
        · refine ⟨alternative ++ loose, List.mem_cons_self, List.forall_mem_append.mpr ⟨?_, known⟩⟩
          exact fun comparison inside => ⟨[alternative], List.mem_cons_self, by simpa using inside⟩
        · exact ⟨loose, List.mem_cons_of_mem _ among, known⟩
    | cons next later =>
      refine ⟨alternative, List.mem_cons_self, fun comparison inside => ?_⟩
      exact ⟨_, List.mem_cons_self, List.mem_flatten.mpr ⟨alternative, List.mem_cons_self, inside⟩⟩

end

/-- What the rows of a table hold, and when a comparison comes to true in one. A column equals a placeholder when it
holds the value that is bound there. -/
structure Table (Row : Type) where
  cell : Row → List (List Char) → Option Json
  holds : List Json → Row → Comparison → Prop
  equates : ∀ parameters row names position value, parameters[position]? = some value →
    (holds parameters row (equation names (position + 1)) ↔ cell row names = some value)

/-- The comparison that stands last: the column holds what the last placeholder is bound to. -/
def ownComparison (column : String) (restricted : Sql.Conditions) : Comparison :=
  equation (partsOf column) restricted.parameters.length

/-- A clause asks for what was asked before and for the rows of the tenant, and nothing less meets it. -/
structure Binds (readings : List Reading) (tenant : TenantContext) (column : String) (restricted : Sql.Conditions)
    (whole : Reading) : Prop where
  equivalent : ∀ holds, Met holds whole ↔
    (∀ reading ∈ readings, Met holds reading) ∧ holds (ownComparison column restricted)
  confined : ∀ {Row : Type} (table : Table Row) (row : Row), Met (table.holds restricted.parameters row) whole →
    table.cell row (partsOf column) = some (.text tenant.organization)

theorem readClause?_where (condition : List Char) : readClause? ("WHERE ".toList ++ condition) = read? condition := rfl

section
variable {conditions restricted : Sql.Conditions} {tenant : TenantContext} {column : String} {readings : List Reading}

theorem restrict_bound (done : conditions.restrict tenant column = .ok restricted) :
    restricted.parameters = conditions.parameters ++ [.text tenant.organization] := by
  unfold Sql.Conditions.restrict at done
  split at done
  · cases done
  · cases done
    rfl

/-- The clause reads as the conditions given before, one behind the other, and the tenant's behind them. -/
theorem restrict_reads (done : conditions.restrict tenant column = .ok restricted)
    (formed : List.Forall₂ Formed conditions.predicates readings) :
    readClause? restricted.clause.toList = some (readings.foldr meet [[ownComparison column restricted]]) := by
  unfold Sql.Conditions.restrict at done
  split at done
  · cases done
  next written quoted =>
    have own := equation_reads (partsOf column) (conditions.parameters ++ [Json.text tenant.organization]).length
    rw [← quoteIdentifier_parts quoted, ← String.toList_append, ← String.toList_append] at own
    have given : List.Forall₂ (fun text reading => read? text = some reading)
        (conditions.predicates.map String.toList) readings :=
      List.forall₂_map_left_iff.mpr (formed.imp fun text reading reads => reads.reads)
    cases done
    rw [Sql.Conditions.clause, Sql.Conditions.require, if_neg (by simp), String.toList_append,
      readClause?_where, String.toList_intercalate, List.map_append, ← chain_last]
    exact chain_reads read?_and (List.rel_append given (.cons own .nil)) (by simp)

theorem formed_begun {texts : List String} (formed : List.Forall₂ Formed texts readings) :
    ∀ reading ∈ readings, reading ≠ [] := by
  induction formed with
  | nil => nofun
  | cons first later ih => exact List.forall_mem_cons.mpr ⟨read?_begun first.reads, ih⟩

end

/-- With the tenant's condition behind them, conditions of one alternative each ask for the tenant's rows only. One of
several alternatives lets rows of others in. What meets all conditions meets the clause in any case. -/
theorem tenant_condition_binds_without_alternatives (conditions : Sql.Conditions) (tenant : TenantContext)
    (column : String) (restricted : Sql.Conditions) (done : conditions.restrict tenant column = .ok restricted)
    (readings : List Reading) (formed : List.Forall₂ Formed conditions.predicates readings) :
    ∃ whole, readClause? restricted.clause.toList = some whole ∧
      (∀ holds, (∀ reading ∈ readings, Met holds reading) → holds (ownComparison column restricted) →
        Met holds whole) ∧
      ((∀ reading ∈ readings, reading.length = 1) → Binds readings tenant column restricted whole) ∧
      ((∀ reading ∈ readings, ∀ comparison ∈ reading.flatten,
          placeholder restricted.parameters.length ∉ comparison) →
        Binds readings tenant column restricted whole → ∀ reading ∈ readings, reading.length = 1) := by
  have bound := restrict_bound done
  have last : restricted.parameters.length = conditions.parameters.length + 1 := by
    rw [bound, List.length_append, List.length_singleton]
  have value : restricted.parameters[conditions.parameters.length]? = some (.text tenant.organization) := by
    rw [bound, List.getElem?_concat_length]
  refine ⟨_, restrict_reads done formed, fun holds given owned => whole_met given owned, fun single => ?_,
    fun unclaimed binds => ?_⟩
  · obtain ⟨comparisons, same, meaning⟩ := whole_single single
    have equivalent (holds : Comparison → Prop) : Met holds [comparisons] ↔
        (∀ reading ∈ readings, Met holds reading) ∧ holds (ownComparison column restricted) := by
      rw [← meaning holds]
      simp [Met]
    rw [same]
    refine ⟨equivalent, fun table row met => ?_⟩
    have owned := ((equivalent _).mp met).2
    rw [ownComparison, last] at owned
    exact (table.equates _ _ _ _ _ value).mp owned
  · by_contra several
    obtain ⟨loose, among, given⟩ := whole_loose (formed_begun formed) several
    -- Everything holds but the tenant's condition.
    have met : Met (· ≠ ownComparison column restricted) (readings.foldr meet [[ownComparison column restricted]]) := by
      refine ⟨loose, among, fun comparison inside same => ?_⟩
      obtain ⟨reading, listed, held⟩ := given comparison inside
      refine unclaimed reading listed comparison held ?_
      rw [same]
      simp [ownComparison, equation]
    exact ((binds.equivalent _).mp met).2 rfl

def ownTenant : TenantContext :=
  ⟨"22222222-2222-2222-2222-222222222222", "11111111-1111-1111-1111-111111111111", "member"⟩

def named (name : String) (position : Nat) : Comparison := equation [name.toList] position

def together : Sql.Conditions := ⟨["\"status\" = $1 AND \"kind\" = $2"], [.text "active", .text "document"]⟩

theorem together_formed : List.Forall₂ Formed together.predicates [[[named "status" 1, named "kind" 2]]] := by
  have each : List.Forall₂ Atomic ["\"status\" = $1", "\"kind\" = $2"] [named "status" 1, named "kind" 2] :=
    .cons (by decide +kernel) (.cons (by decide +kernel) .nil)
  have joined : " AND ".intercalate ["\"status\" = $1", "\"kind\" = $2"] =
      "\"status\" = $1 AND \"kind\" = $2" := by decide
  have formed := Formed.all each (List.cons_ne_nil _ _)
  rw [joined] at formed
  exact .cons formed .nil

theorem tenant_condition_binds_without_alternatives_together :
    ∃ restricted, together.restrict ownTenant "organization_id" = .ok restricted ∧
      List.Forall₂ Formed together.predicates [[[named "status" 1, named "kind" 2]]] ∧
      ∃ whole, readClause? restricted.clause.toList = some whole ∧
        Binds [[[named "status" 1, named "kind" 2]]] ownTenant "organization_id" restricted whole := by
  obtain ⟨restricted, done⟩ : ∃ restricted, together.restrict ownTenant "organization_id" = .ok restricted := ⟨_, rfl⟩
  obtain ⟨whole, read, -, binds, -⟩ :=
    tenant_condition_binds_without_alternatives together ownTenant "organization_id" restricted done _ together_formed
  exact ⟨restricted, done, together_formed, whole, read, binds (List.forall_mem_singleton.mpr rfl)⟩

/-- A table whose rows are told cell by cell, and in which only columns are compared with placeholders. -/
def cellTable : Table (List (List (List Char) × Json)) where
  cell row names := row.lookup names
  holds parameters row comparison := ∃ names position value,
    comparison = equation names (position + 1) ∧ parameters[position]? = some value ∧ row.lookup names = some value
  equates parameters row names position value bound := by
    constructor
    · rintro ⟨columns, place, other, same, found, held⟩
      obtain ⟨rfl, placed⟩ := equation_inj same
      obtain rfl := Nat.succ.inj placed
      rw [held, ← bound, found]
    · exact fun held => ⟨names, position, value, rfl, bound, held⟩

def alternatives : Sql.Conditions := ⟨["\"status\" = $1 OR \"status\" = $2"], [.text "active", .text "new"]⟩

theorem alternatives_formed :
    List.Forall₂ Formed alternatives.predicates [[[named "status" 1], [named "status" 2]]] := by
  have each : List.Forall₂ Atomic ["\"status\" = $1", "\"status\" = $2"] [named "status" 1, named "status" 2] :=
    .cons (by decide +kernel) (.cons (by decide +kernel) .nil)
  have joined : " OR ".intercalate ["\"status\" = $1", "\"status\" = $2"] =
      "\"status\" = $1 OR \"status\" = $2" := by decide
  have formed := Formed.any each (List.cons_ne_nil _ _)
  rw [joined] at formed
  exact .cons formed .nil

def foreignRow : List (List (List Char) × Json) :=
  [(["status".toList], .text "active"), (["organization_id".toList], .text "33333333-3333-3333-3333-333333333333")]

theorem alternatives_restricted : alternatives.restrict ownTenant "organization_id" = .ok
    ⟨["\"status\" = $1 OR \"status\" = $2", "\"organization_id\" = $3"],
      [.text "active", .text "new", .text ownTenant.organization]⟩ := rfl

/-- The first alternative stands without the tenant's condition, and the row of another organization meets it. -/
theorem alternative_lets_others_in :
    ∃ restricted whole, alternatives.restrict ownTenant "organization_id" = .ok restricted ∧
      restricted.clause = "WHERE \"status\" = $1 OR \"status\" = $2 AND \"organization_id\" = $3" ∧
      List.Forall₂ Formed alternatives.predicates [[[named "status" 1], [named "status" 2]]] ∧
      readClause? restricted.clause.toList = some whole ∧
      Met (cellTable.holds restricted.parameters foreignRow) whole ∧
      cellTable.cell foreignRow (partsOf "organization_id") ≠ some (.text ownTenant.organization) := by
  have written : Sql.Conditions.clause ⟨["\"status\" = $1 OR \"status\" = $2", "\"organization_id\" = $3"],
      [.text "active", .text "new", .text ownTenant.organization]⟩ =
      "WHERE \"status\" = $1 OR \"status\" = $2 AND \"organization_id\" = $3" := by decide +kernel
  have read : readClause? "WHERE \"status\" = $1 OR \"status\" = $2 AND \"organization_id\" = $3".toList =
      some [[named "status" 1], [named "status" 2, named "organization_id" 3]] := by decide +kernel
  have apart : foreignRow.lookup (partsOf "organization_id") ≠ some (.text ownTenant.organization) := by
    decide +kernel
  have active : foreignRow.lookup ["status".toList] = some (.text "active") := by decide +kernel
  refine ⟨_, [[named "status" 1], [named "status" 2, named "organization_id" 3]], alternatives_restricted, written,
    alternatives_formed, ?_, ?_, apart⟩
  · rw [written]
    exact read
  · refine ⟨_, List.mem_cons_self, List.forall_mem_singleton.mpr ?_⟩
    exact ⟨["status".toList], 0, .text "active", rfl, rfl, active⟩

end TenantAccess.Proofs.Condition
