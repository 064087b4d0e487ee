import TenantAccess.Proofs.RestrictedRows
import TenantAccess.Proofs.TokenAcceptance

/-! Names between quotes. What is written for a dotted name reads back as the parts of that name and ends where it is
to end, whatever the parts hold. Written a second time it stays the same if no part holds a quote, and only then. -/

namespace TenantAccess.Proofs.Delimited
open Condition (partsOf)

def joined (names : List (List Char)) : List Char := ['.'].intercalate (names.map Sql.quoted)

/-- The names from inside the first one on, of which some has been read, and what stands behind them. A quote written
twice is one quote of a name, and any other ends it. The next name follows behind a single dot. -/
def inside? (read : List Char) : List Char → Option (List (List Char) × List Char)
  | '"' :: '"' :: rest => inside? (read ++ ['"']) rest
  | '"' :: '.' :: '"' :: rest => (inside? [] rest).map fun (names, behind) => (read :: names, behind)
  | '"' :: rest => some ([read], rest)
  | c :: rest => inside? (read ++ [c]) rest
  | [] => none

/-- The names that a text begins with, each between quotes, and what stands behind them. -/
def names? : List Char → Option (List (List Char) × List Char)
  | '"' :: rest => inside? [] rest
  | _ => none

/-- What may stand behind names without going on with them. -/
def Apart (rest : List Char) : Prop := ¬ ['"'] <+: rest ∧ ¬ ['.', '"'] <+: rest

def further (names : List (List Char)) : List Char := names.flatMap fun name => '.' :: Sql.quoted name

theorem further_cons (name : List Char) (names : List (List Char)) :
    further (name :: names) = '.' :: '"' :: (Sql.doubleQuotes name ++ '"' :: further names) := by
  simp [further, Sql.quoted]

theorem joined_cons (name : List Char) (names : List (List Char)) :
    joined (name :: names) = '"' :: (Sql.doubleQuotes name ++ '"' :: further names) := by
  induction names generalizing name with
  | nil => simp [joined, further, Sql.quoted]
  | cons next rest ih =>
    have later := ih next
    unfold joined at later ⊢
    rw [List.map_cons, List.map_cons, List.intercalate_cons_cons, ← List.map_cons, later, further_cons]
    simp [Sql.quoted]

theorem doubleQuotes_cons (c : Char) (name : List Char) :
    Sql.doubleQuotes (c :: name) = (if c = '"' then ['"', '"'] else [c]) ++ Sql.doubleQuotes name := rfl

theorem inside?_plain {c : Char} (plain : c ≠ '"') (read rest : List Char) :
    inside? read (c :: rest) = inside? (read ++ [c]) rest := by
  rw [inside?] <;> simp [plain]

theorem inside?_ended (read : List Char) {rest : List Char} (apart : Apart rest) :
    inside? read ('"' :: rest) = some ([read], rest) := by
  obtain ⟨single, last⟩ := apart
  rw [inside?]
  · rintro behind rfl
    exact single (by simp)
  · rintro behind rfl
    exact last (by simp)

/-- What comes behind the signs of a name has no say in how they are read. -/
theorem inside?_name (name read rest : List Char) :
    inside? read (Sql.doubleQuotes name ++ rest) = inside? (read ++ name) rest := by
  induction name generalizing read with
  | nil =>
    rw [List.append_nil]
    rfl
  | cons c others ih =>
    rw [doubleQuotes_cons, List.append_cons read c others, ← ih]
    by_cases doubled : c = '"'
    · subst doubled
      rfl
    · rw [if_neg doubled]
      exact inside?_plain doubled ..

theorem inside?_names (read : List Char) (names : List (List Char)) {rest : List Char} (apart : Apart rest) :
    inside? read ('"' :: (further names ++ rest)) = some (read :: names, rest) := by
  induction names generalizing read with
  | nil => exact inside?_ended read apart
  | cons next more ih =>
    have behind := ih next
    have name := inside?_name next [] ('"' :: (further more ++ rest))
    rw [further_cons]
    simp only [List.cons_append, List.append_assoc]
    rw [inside?, name, List.nil_append, behind]
    rfl

/-- What was read is what stood there: nothing is passed over, and nothing of the rest belongs to the names. -/
theorem inside?_written {read text rest : List Char} {names : List (List Char)}
    (found : inside? read text = some (names, rest)) :
    ∃ name others, names = (read ++ name) :: others ∧
      text = Sql.doubleQuotes name ++ '"' :: (further others ++ rest) ∧ Apart rest := by
  fun_induction inside? read text generalizing names with
  | case1 read text ih =>
    obtain ⟨name, others, rfl, rfl, apart⟩ := ih found
    exact ⟨'"' :: name, others, by simp, by simp [doubleQuotes_cons], apart⟩
  | case2 read text ih =>
    obtain ⟨⟨later, behind⟩, inner, same⟩ := Option.map_eq_some_iff.mp found
    cases same
    obtain ⟨name, others, rfl, rfl, apart⟩ := ih inner
    exact ⟨[], name :: others, by simp, by simp [Sql.doubleQuotes, further_cons], apart⟩
  | case3 read text single last =>
    cases found
    refine ⟨[], [], by simp, by simp [Sql.doubleQuotes, further], ?_, ?_⟩
    · rintro ⟨behind, rfl⟩
      exact single behind rfl
    · rintro ⟨behind, rfl⟩
      exact last behind rfl
  | case4 read c text _ _ plain ih =>
    obtain ⟨name, others, rfl, rfl, apart⟩ := ih found
    exact ⟨c :: name, others, by simp, by rw [doubleQuotes_cons, if_neg plain]; rfl, apart⟩
  | case5 => cases found

/-- Reading undoes writing, and takes nothing but what can be written. -/
theorem names?_iff (text rest : List Char) (names : List (List Char)) :
    names? text = some (names, rest) ↔ names ≠ [] ∧ text = joined names ++ rest ∧ Apart rest := by
  constructor
  · intro found
    unfold names? at found
    split at found
    · obtain ⟨name, others, rfl, rfl, apart⟩ := inside?_written found
      exact ⟨List.cons_ne_nil _ _, by simp [joined_cons], apart⟩
    · cases found
  · rintro ⟨given, rfl, apart⟩
    obtain ⟨name, others, rfl⟩ := List.exists_cons_of_ne_nil given
    rw [joined_cons]
    simp only [List.cons_append, List.append_assoc]
    rw [names?, inside?_name, List.nil_append, inside?_names name others apart]

example : names? "\"a\"\"b\".\"c\" = $1".toList = some (["a\"b".toList, ['c']], " = $1".toList) := by decide

theorem names?_joined {names : List (List Char)} (given : names ≠ []) : names? (joined names) = some (names, []) :=
  (names?_iff ..).mpr ⟨given, (List.append_nil _).symm, by simp, by simp⟩

theorem joined_inj {names others : List (List Char)} (given : names ≠ []) (some : others ≠ []) :
    joined names = joined others ↔ names = others := by
  constructor
  · intro same
    have read := names?_joined given
    rw [same, names?_joined some] at read
    exact (Prod.mk.inj (Option.some.inj read)).1.symm
  · exact congrArg joined

/-- What a piece between two dots stands for: what is between its blanks, less one pair of quotes around that. -/
inductive Stands (piece : List Char) : List Char → Prop where
  | unwrapped {part : List Char} (paired : Text.trimmed piece = '"' :: (part ++ ['"'])) : Stands piece part
  | bare (unpaired : ∀ part, Text.trimmed piece ≠ '"' :: (part ++ ['"'])) : Stands piece (Text.trimmed piece)

/-- The pieces of a name between its dots, and the parts that they stand for. -/
structure Dotted (name : String) (pieces parts : List (List Char)) : Prop where
  given : pieces ≠ []
  whole : ['.'].intercalate pieces = name.toList
  dotless : ∀ piece ∈ pieces, '.' ∉ piece
  stand : List.Forall₂ Stands pieces parts

/-- How the quoting of a name ends. It fails for the first piece that stands for nothing. If there is none, what is
written reads back as the parts, and whatever stands behind it. -/
inductive Quoting (pieces parts : List (List Char)) : Except Sql.EmptyIdentifier String → Prop where
  | refused {before after : List (List Char)} {piece : List Char} (found : pieces = before ++ piece :: after)
      (first : ∀ earlier ∈ before, ¬ Stands earlier []) (empty : Stands piece []) :
      Quoting pieces parts (.error ⟨String.ofList piece⟩)
  | written {text : String} (full : [] ∉ parts)
      (reads : ∀ rest, Apart rest → names? (text.toList ++ rest) = some (parts, rest)) : Quoting pieces parts (.ok text)

def partOf (piece : List Char) : List Char := Sql.unwrap (Text.trimmed piece)

def piecesOf (name : String) : List (List Char) := name.toList.splitOn '.'

theorem partsOf_pieces (name : String) : partsOf name = (piecesOf name).map partOf := rfl

theorem unwrap_paired (part : List Char) : Sql.unwrap ('"' :: (part ++ ['"'])) = part := by
  simp [Sql.unwrap]

theorem unwrap_unpaired {text : List Char} (unpaired : ∀ part, text ≠ '"' :: (part ++ ['"'])) :
    Sql.unwrap text = text := by
  unfold Sql.unwrap
  split
  next rest =>
    split
    next last =>
      have whole := List.dropLast_append_getLast? '"' last
      exact absurd (congrArg ('"' :: ·) whole.symm) (unpaired rest.dropLast)
    · rfl
  · rfl

theorem stands_iff (piece part : List Char) : Stands piece part ↔ partOf piece = part := by
  unfold partOf
  constructor
  · rintro (paired | unpaired)
    · rw [paired, unwrap_paired]
    · exact unwrap_unpaired unpaired
  · rintro rfl
    by_cases paired : ∃ part, Text.trimmed piece = '"' :: (part ++ ['"'])
    · obtain ⟨part, paired⟩ := paired
      rw [paired, unwrap_paired]
      exact .unwrapped paired
    · have unpaired : ∀ part, Text.trimmed piece ≠ '"' :: (part ++ ['"']) := not_exists.mp paired
      rw [unwrap_unpaired unpaired]
      exact .bare unpaired

theorem splitOn_dotless {pieces : List (List Char)} {text : List Char} (split : text.splitOn '.' = pieces) :
    ∀ piece ∈ pieces, '.' ∉ piece := by
  induction pieces generalizing text with
  | nil => nofun
  | cons first others ih =>
    obtain ⟨dotless, ⟨rfl, -⟩ | ⟨behind, -, later⟩⟩ := splitOn_first split
    · exact List.forall_mem_singleton.mpr dotless
    · exact List.forall_mem_cons.mpr ⟨dotless, ih later⟩

theorem partsOf_dotted (name : String) : Dotted name (piecesOf name) (partsOf name) where
  given := List.splitOn_ne_nil '.' name.toList
  whole := List.intercalate_splitOn '.'
  dotless := splitOn_dotless rfl
  stand := by
    rw [partsOf_pieces, List.forall₂_map_right_iff, List.forall₂_same]
    exact fun piece _ => (stands_iff piece _).mpr rfl

theorem quotePart_full {piece : List Char} (full : partOf piece ≠ []) :
    Sql.quotePart piece = .ok (Sql.quoted (partOf piece)) := by
  unfold Sql.quotePart
  split
  next empty => exact absurd empty full
  next name => rfl

theorem quotePart_empty {piece : List Char} (empty : partOf piece = []) :
    Sql.quotePart piece = .error ⟨String.ofList piece⟩ := by
  unfold Sql.quotePart
  unfold partOf at empty
  rw [empty]

theorem quoteParts_full {pieces : List (List Char)} (full : [] ∉ pieces.map partOf) :
    Sql.quoteParts pieces = .ok ((pieces.map partOf).map Sql.quoted) := by
  induction pieces with
  | nil => rfl
  | cons piece rest ih =>
    rw [List.map_cons, List.mem_cons, not_or] at full
    rw [Sql.quoteParts, quotePart_full (Ne.symm full.1), ih full.2]
    rfl

theorem quoteParts_empty {before : List (List Char)} {piece : List Char} (full : [] ∉ before.map partOf)
    (empty : partOf piece = []) (after : List (List Char)) :
    Sql.quoteParts (before ++ piece :: after) = .error ⟨String.ofList piece⟩ := by
  induction before with
  | nil => rw [List.nil_append, Sql.quoteParts, quotePart_empty empty]
  | cons first others ih =>
    rw [List.map_cons, List.mem_cons, not_or] at full
    rw [List.cons_append, Sql.quoteParts, quotePart_full (Ne.symm full.1), ih full.2]

theorem quoteIdentifier_full {name : String} (full : [] ∉ partsOf name) :
    Sql.quoteIdentifier name = .ok (String.ofList (joined (partsOf name))) := by
  rw [partsOf_pieces] at full ⊢
  unfold Sql.quoteIdentifier
  unfold piecesOf at full ⊢
  rw [quoteParts_full full]
  rfl

theorem quoteIdentifier_empty {name : String} (empty : [] ∈ partsOf name) :
    ∃ before piece after, piecesOf name = before ++ piece :: after ∧ [] ∉ before.map partOf ∧ partOf piece = [] ∧
      Sql.quoteIdentifier name = .error ⟨String.ofList piece⟩ := by
  obtain ⟨earlier, later, whole, full⟩ := List.eq_append_cons_of_mem empty
  rw [partsOf_pieces] at whole
  obtain ⟨before, others, cut, rfl, rest⟩ := List.map_eq_append_iff.mp whole
  obtain ⟨piece, after, rfl, nothing, rfl⟩ := List.map_eq_cons_iff.mp rest
  refine ⟨before, piece, after, cut, full, nothing, ?_⟩
  unfold Sql.quoteIdentifier
  unfold piecesOf at cut
  rw [cut, quoteParts_empty full nothing]

theorem quoteIdentifier_ok_iff (name written : String) :
    Sql.quoteIdentifier name = .ok written ↔ [] ∉ partsOf name ∧ written = String.ofList (joined (partsOf name)) := by
  constructor
  · intro done
    by_cases empty : [] ∈ partsOf name
    · obtain ⟨_, _, _, -, -, -, failed⟩ := quoteIdentifier_empty empty
      rw [failed] at done
      cases done
    · rw [quoteIdentifier_full empty] at done
      exact ⟨empty, (Except.ok.inj done).symm⟩
  · rintro ⟨full, rfl⟩
    exact quoteIdentifier_full full

theorem partsOf_given (name : String) : partsOf name ≠ [] :=
  fun none => List.splitOn_ne_nil '.' name.toList (List.map_eq_nil_iff.mp none)

/-- Quoting a dotted name fails exactly when a part of it is empty. Otherwise what is written reads back as its parts,
in any text that does not go on with a quote or another name. -/
theorem identifiers_read_back (name : String) :
    Dotted name (piecesOf name) (partsOf name) ∧
      ((∃ error, Sql.quoteIdentifier name = .error error) ↔ [] ∈ partsOf name) ∧
      Quoting (piecesOf name) (partsOf name) (Sql.quoteIdentifier name) := by
  refine ⟨partsOf_dotted name, ?_⟩
  by_cases empty : [] ∈ partsOf name
  · obtain ⟨before, piece, after, cut, full, nothing, failed⟩ := quoteIdentifier_empty empty
    have first : ∀ earlier ∈ before, ¬ Stands earlier [] := fun earlier inside stands =>
      full (List.mem_map.mpr ⟨earlier, inside, (stands_iff ..).mp stands⟩)
    rw [failed]
    exact ⟨⟨fun _ => empty, fun _ => ⟨_, rfl⟩⟩, .refused cut first ((stands_iff ..).mpr nothing)⟩
  · have reads (rest : List Char) (apart : Apart rest) :
        names? ((String.ofList (joined (partsOf name))).toList ++ rest) = some (partsOf name, rest) := by
      rw [String.toList_ofList, names?_iff]
      exact ⟨partsOf_given name, rfl, apart⟩
    rw [quoteIdentifier_full empty]
    exact ⟨⟨nofun, fun given => absurd given empty⟩, .written empty reads⟩

theorem trimmed_quoted (name : List Char) : Text.trimmed (Sql.quoted name) = Sql.quoted name := by
  have unblank : Text.isBlank '"' = false := by decide
  simp [Text.trimmed, Sql.quoted, unblank]

theorem partOf_quoted (name : List Char) : partOf (Sql.quoted name) = Sql.doubleQuotes name := by
  rw [partOf, trimmed_quoted]
  exact unwrap_paired _

theorem mem_doubleQuotes (c : Char) (name : List Char) : c ∈ Sql.doubleQuotes name ↔ c ∈ name := by
  induction name with
  | nil => rfl
  | cons first others ih =>
    rw [doubleQuotes_cons, List.mem_append, ih, List.mem_cons]
    split
    next quote => simp [quote]
    · simp

theorem unwrap_subset (text : List Char) : Sql.unwrap text ⊆ text := by
  unfold Sql.unwrap
  split
  next rest =>
    split
    · exact List.subset_cons_of_subset _ (List.dropLast_subset rest)
    · exact List.Subset.refl _
  · exact List.Subset.refl _

theorem trimmed_subset (text : List Char) : Text.trimmed text ⊆ text := by
  intro c inside
  have kept := (List.dropWhile_sublist _).subset (List.mem_reverse.mp inside)
  exact (List.dropWhile_sublist _).subset (List.mem_reverse.mp kept)

theorem partOf_subset (piece : List Char) : partOf piece ⊆ piece :=
  List.Subset.trans (unwrap_subset _) (trimmed_subset piece)

theorem partsOf_dotless (name : String) : ∀ part ∈ partsOf name, '.' ∉ part := by
  intro part listed dotted
  obtain ⟨piece, cut, rfl⟩ := List.mem_map.mp listed
  exact splitOn_dotless rfl piece cut (partOf_subset piece dotted)

/-- What was written for parts without dots is cut into the same parts, with their quotes doubled. -/
theorem partsOf_joined {names : List (List Char)} (given : names ≠ []) (dotless : ∀ name ∈ names, '.' ∉ name) :
    partsOf (String.ofList (joined names)) = names.map Sql.doubleQuotes := by
  have quoted : ∀ piece ∈ names.map Sql.quoted, '.' ∉ piece := by
    intro piece inside
    obtain ⟨name, listed, rfl⟩ := List.mem_map.mp inside
    have held := (mem_doubleQuotes '.' name).not.mpr (dotless name listed)
    simp [Sql.quoted, held]
  have cut : piecesOf (String.ofList (joined names)) = names.map Sql.quoted := by
    rw [piecesOf, String.toList_ofList, joined, List.splitOn_intercalate '.' quoted (by simpa using given)]
  rw [partsOf_pieces, cut, List.map_map]
  exact List.map_congr_left fun name _ => partOf_quoted name

theorem doubleQuotes_length (name : List Char) : (Sql.doubleQuotes name).length = name.length + name.count '"' := by
  induction name with
  | nil => rfl
  | cons c others ih =>
    rw [doubleQuotes_cons, List.length_append, ih, List.count_cons, List.length_cons]
    split <;> simp_all <;> omega

theorem doubleQuotes_nil {name : List Char} (nothing : Sql.doubleQuotes name = []) : name = [] := by
  have length := doubleQuotes_length name
  rw [nothing, List.length_nil] at length
  exact List.length_eq_zero_iff.mp (by omega)

theorem doubleQuotes_fixed (name : List Char) : Sql.doubleQuotes name = name ↔ '"' ∉ name := by
  constructor
  · intro same
    have counted := doubleQuotes_length name
    rw [same] at counted
    exact List.count_eq_zero.mp (by omega)
  · intro plain
    induction name with
    | nil => rfl
    | cons c others ih =>
      rw [List.mem_cons, not_or] at plain
      rw [doubleQuotes_cons, if_neg (Ne.symm plain.1), ih plain.2]
      rfl

theorem unquoted_iff (names : List (List Char)) :
    names.map Sql.doubleQuotes = names ↔ ∀ name ∈ names, '"' ∉ name := by
  have fixed := List.map_inj_left (l := names) (f := Sql.doubleQuotes) (g := id)
  rw [List.map_id] at fixed
  rw [fixed]
  exact forall₂_congr fun name _ => doubleQuotes_fixed name

/-- What was written can be quoted again, and then holds the quotes of its parts twice over. It stays the same exactly
when there are none. -/
theorem requoted_unchanged_iff {name written : String} (done : Sql.quoteIdentifier name = .ok written) :
    ∃ again, Sql.quoteIdentifier written = .ok again ∧
      names? again.toList = some ((partsOf name).map Sql.doubleQuotes, []) ∧
      (again = written ↔ ∀ part ∈ partsOf name, '"' ∉ part) := by
  obtain ⟨full, rfl⟩ := (quoteIdentifier_ok_iff ..).mp done
  have given := partsOf_given name
  have doubled : (partsOf name).map Sql.doubleQuotes ≠ [] := by simpa using given
  have parts := partsOf_joined given (partsOf_dotless name)
  have filled : [] ∉ partsOf (String.ofList (joined (partsOf name))) := by
    rw [parts]
    intro empty
    obtain ⟨part, listed, nothing⟩ := List.mem_map.mp empty
    rw [doubleQuotes_nil nothing] at listed
    exact full listed
  refine ⟨_, quoteIdentifier_full filled, ?_, ?_⟩
  · rw [parts, String.toList_ofList, names?_joined doubled]
  · rw [parts, String.ofList_inj, joined_inj doubled given, unquoted_iff]

theorem requoted_unchanged_iff_qualified :
    Sql.quoteIdentifier "public. \"member ship\" " = .ok "\"public\".\"member ship\"" ∧
      Sql.quoteIdentifier "\"public\".\"member ship\"" = .ok "\"public\".\"member ship\"" := by
  have done : Sql.quoteIdentifier "public. \"member ship\" " = .ok "\"public\".\"member ship\"" := by decide +kernel
  have plain : ∀ part ∈ partsOf "public. \"member ship\" ", '"' ∉ part := by decide +kernel
  obtain ⟨again, requoted, -, unchanged⟩ := requoted_unchanged_iff done
  rw [unchanged.mpr plain] at requoted
  exact ⟨done, requoted⟩

/-- The quotes around a name are taken off before it is quoted again, but a quote inside stays written twice and is
doubled once more. -/
theorem inner_quotes_doubled_again :
    Sql.quoteIdentifier "we\"ird" = .ok "\"we\"\"ird\"" ∧
      Sql.quoteIdentifier "\"we\"\"ird\"" = .ok "\"we\"\"\"\"ird\"" ∧
      Sql.quoteIdentifier "\"we\"\"ird\"" ≠ .ok "\"we\"\"ird\"" := by
  decide +kernel

end TenantAccess.Proofs.Delimited
