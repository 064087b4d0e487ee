import TenantAccess.Routing.Target

/-! Targets from which a part was taken and put back. Most come back as they were; one
with an origin in front can come back longer, but it keeps a path, and that path starts
as the old one did or as what was put back. -/

namespace TenantAccess.Proofs
open Target Target.Address

/-- Text that no reading of a target changes, drops or stops at. -/
def Ordinary (text : List Char) : Prop := ∀ c ∈ text, c = '/' ∨ c.isAlphanum = true

theorem Ordinary.tail {c : Char} {rest : List Char} (ordinary : Ordinary (c :: rest)) : Ordinary rest :=
  fun d member => ordinary d (List.mem_cons_of_mem _ member)

theorem Ordinary.excludes {text : List Char} (ordinary : Ordinary text) {c : Char} (member : c ∈ text)
    {other : Char} (odd : other ≠ '/' ∧ other.isAlphanum = false) : c ≠ other := by
  rintro rfl
  rcases ordinary c member with slash | letter
  · exact odd.1 slash
  · simp [odd.2] at letter

theorem Ordinary.escaped {c : Char} {rest : List Char} (ordinary : Ordinary (c :: rest)) :
    escaped c = [c] := by
  have plain {other : Char} (odd : other ≠ '/' ∧ other.isAlphanum = false) : c ≠ other :=
    ordinary.excludes List.mem_cons_self odd
  unfold Address.escaped
  split <;> first
    | rfl
    | exact absurd rfl (plain (by decide))

theorem Ordinary.continuesPath {c : Char} {rest : List Char} (ordinary : Ordinary (c :: rest)) :
    endsPath c = false := by
  have query : c ≠ '?' := ordinary.excludes List.mem_cons_self (by decide)
  have fragment : c ≠ '#' := ordinary.excludes List.mem_cons_self (by decide)
  simp [endsPath, query, fragment]

theorem Ordinary.inside {c : Char} {rest : List Char} (ordinary : Ordinary (c :: rest)) :
    isMargin c = false := by
  have blank : c ≠ '\u00A0' := ordinary.excludes List.mem_cons_self (by decide)
  have mark : c ≠ '\uFEFF' := ordinary.excludes List.mem_cons_self (by decide)
  have high : 33 ≤ c.toNat := by
    rcases ordinary c List.mem_cons_self with rfl | letter
    · decide
    · unfold Char.isAlphanum Char.isAlpha Char.isUpper Char.isLower Char.isDigit at letter
      simp only [Bool.or_eq_true, Bool.and_eq_true, decide_eq_true_eq, UInt32.le_iff_toNat_le, ge_iff_le] at letter
      change ((65 ≤ c.toNat ∧ c.toNat ≤ 90) ∨ (97 ≤ c.toNat ∧ c.toNat ≤ 122)) ∨
        (48 ≤ c.toNat ∧ c.toNat ≤ 57) at letter
      omega
  simp [isMargin, blank, mark]
  omega

section
variable {p : Char → Bool} {c : Char}

theorem takeWhile_stop (stop : p c = false) (before after : List Char) :
    (before ++ c :: after).takeWhile p = before.takeWhile p := by
  induction before with
  | nil => simp [stop]
  | cons d rest ih => simp [List.takeWhile_cons, ih]

theorem dropWhile_stop (stop : p c = false) (before after : List Char) :
    (before ++ c :: after).dropWhile p = before.dropWhile p ++ c :: after := by
  induction before with
  | nil => simp [stop]
  | cons d rest ih =>
    simp only [List.cons_append, List.dropWhile_cons]
    split
    · exact ih
    · rfl

end

theorem takeWhile_shorter {p : Char → Bool} {text : List Char} (short : (text.takeWhile p).length < text.length) :
    ∃ c rest, text = text.takeWhile p ++ c :: rest ∧ p c = false := by
  induction text with
  | nil => simp at short
  | cons d text ih =>
    by_cases passes : p d = true
    · rw [List.takeWhile_cons_of_pos passes] at short ⊢
      obtain ⟨c, rest, same, stops⟩ := ih (by simpa using short)
      exact ⟨c, rest, by rw [List.cons_append, ← same], stops⟩
    · exact ⟨d, text, by rw [List.takeWhile_cons_of_neg passes]; rfl, by simpa using passes⟩

theorem prefix_takeWhile {p : Char → Bool} {first text : List Char} (prior : first <+: text)
    (holds : ∀ c ∈ first, p c = true) : first <+: text.takeWhile p := by
  obtain ⟨rest, rfl⟩ := prior
  rw [List.takeWhile_append_of_pos holds]
  exact List.prefix_append _ _

theorem prefix_escaped {first text : List Char} (ordinary : Ordinary first) (prior : first <+: text) :
    first <+: text.flatMap escaped := by
  induction first generalizing text with
  | nil => exact List.nil_prefix
  | cons c rest ih =>
    obtain ⟨tail, rfl⟩ := prior
    simp only [List.cons_append, List.flatMap_cons, ordinary.escaped, List.nil_append, List.prefix_cons_inj]
    exact ih ordinary.tail (List.prefix_append _ _)

theorem escaped_cases (c : Char) : escaped c = [c] ∨ ∃ rest, escaped c = '%' :: rest := by
  unfold escaped
  split <;> first
    | exact .inl rfl
    | exact .inr ⟨_, rfl⟩

theorem prefix_of_escaped {first text : List Char} (ordinary : Ordinary first)
    (prior : first <+: text.flatMap escaped) : first <+: text := by
  induction first generalizing text with
  | nil => exact List.nil_prefix
  | cons c rest ih =>
    cases text with
    | nil => simp at prior
    | cons d tail =>
      have unescaped : c ≠ '%' := ordinary.excludes List.mem_cons_self (by decide)
      rw [List.flatMap_cons] at prior
      rcases escaped_cases d with same | ⟨more, changed⟩
      · rw [same, List.singleton_append, List.cons_prefix_cons] at prior
        rw [List.cons_prefix_cons]
        exact ⟨prior.1, ih ordinary.tail prior.2⟩
      · rw [changed, List.cons_append, List.cons_prefix_cons] at prior
        exact absurd prior.1 unescaped

/-- Slashes for backslashes up to the query, as in every address. -/
def slashed (text : List Char) : List Char :=
  (text.takeWhile (!endsPath ·)).map (fun c => if c = '\\' then '/' else c) ++
    text.dropWhile (!endsPath ·)

theorem slashed_cons (c : Char) (rest : List Char) :
    slashed (c :: rest) =
      if endsPath c then c :: rest else (if c = '\\' then '/' else c) :: slashed rest := by
  unfold slashed
  cases ends : endsPath c <;> simp [ends]

theorem slashed_fixed {c : Char} (fixed : c ≠ '\\') (before after : List Char) :
    ∃ rest, slashed (before ++ c :: after) = slashed before ++ c :: rest ∧
      (rest = after ∨ rest = slashed after) := by
  induction before with
  | nil =>
    rw [List.nil_append, slashed_cons, if_neg fixed]
    split
    · exact ⟨after, rfl, .inl rfl⟩
    · exact ⟨slashed after, rfl, .inr rfl⟩
  | cons d rest ih =>
    rw [List.cons_append, slashed_cons, slashed_cons]
    split
    · exact ⟨after, rfl, .inl rfl⟩
    · obtain ⟨tail, same, kept⟩ := ih
      exact ⟨tail, by rw [same]; rfl, kept⟩

theorem prefix_slashed {first text : List Char} (ordinary : Ordinary first) (prior : first <+: text) :
    first <+: slashed text := by
  induction first generalizing text with
  | nil => exact List.nil_prefix
  | cons c rest ih =>
    obtain ⟨tail, rfl⟩ := prior
    have fixed : c ≠ '\\' := ordinary.excludes List.mem_cons_self (by decide)
    rw [List.cons_append, slashed_cons, if_neg (by simp [ordinary.continuesPath]), if_neg fixed,
      List.cons_prefix_cons]
    exact ⟨rfl, ih ordinary.tail (List.prefix_append _ _)⟩

theorem prefix_trimmed {first text : List Char} (ordinary : Ordinary first) (prior : first <+: text) :
    first <+: (text.reverse.dropWhile isMargin).reverse := by
  induction first generalizing text with
  | nil => exact List.nil_prefix
  | cons c rest ih =>
    obtain ⟨tail, rfl⟩ := prior
    rw [List.cons_append, List.reverse_cons, dropWhile_stop ordinary.inside, List.reverse_concat,
      List.cons_prefix_cons]
    exact ⟨rfl, ih ordinary.tail (List.prefix_append _ _)⟩

def Schemed (text : List Char) : Prop := ∃ before after, text = before ++ ':' :: '/' :: '/' :: after

theorem cleaned_eq (text : List Char) :
    cleaned text = slashed ((text.dropWhile isMargin).reverse.dropWhile isMargin).reverse := rfl

/-- What stands in front of a slash is cleaned without regard to what follows it. -/
theorem cleaned_slash (front : List Char) :
    ∀ rest, ∃ tail, cleaned (front ++ '/' :: rest) = slashed (front.dropWhile isMargin) ++ '/' :: tail ∧
      ∀ first, Ordinary first → first <+: '/' :: rest → first <+: '/' :: tail := by
  intro rest
  have inside : isMargin '/' = false := by decide
  rw [cleaned_eq, dropWhile_stop inside, List.reverse_append, List.reverse_cons, List.append_assoc,
    List.singleton_append, dropWhile_stop inside, List.reverse_append, List.reverse_cons, List.reverse_reverse,
    List.append_assoc, List.singleton_append]
  obtain ⟨tail, same, kept⟩ := slashed_fixed (c := '/') (by decide) (front.dropWhile isMargin)
    (rest.reverse.dropWhile isMargin).reverse
  refine ⟨tail, same, fun first ordinary prior => ?_⟩
  cases first with
  | nil => exact List.nil_prefix
  | cons c first =>
    rw [List.cons_prefix_cons] at prior ⊢
    have trimmed := prefix_trimmed ordinary.tail prior.2
    rcases kept with rfl | rfl
    · exact ⟨prior.1, trimmed⟩
    · exact ⟨prior.1, prefix_slashed ordinary.tail trimmed⟩

theorem Schemed.cleaned {front : List Char} (schemed : Schemed front) :
    Schemed (slashed (front.dropWhile isMargin)) := by
  obtain ⟨before, after, rfl⟩ := schemed
  rw [dropWhile_stop (by decide)]
  obtain ⟨tail, same, rfl | rfl⟩ := slashed_fixed (c := ':') (by decide) (before.dropWhile isMargin)
    ('/' :: '/' :: after)
  · exact ⟨_, after, same⟩
  · exact ⟨_, slashed after, by rw [same]; rfl⟩

def readSchemed? (scheme : String) (rest : List Char) : Option Parts :=
  if scheme = hostlessScheme then some (partsOf rest false)
  else match rest with
    | '/' :: '/' :: rest => readHost? (some scheme) rest
    | _ =>
      if pathSchemes.contains scheme then some (partsOf (rest.flatMap escaped) false)
      else readHost? (some scheme) rest

def readCleaned? (text : List Char) : Option Parts :=
  if isPlain text then some (splitQuery text)
  else match scheme? text with
    | some (scheme, rest) => readSchemed? ((String.ofList scheme).map Char.toLower) rest
    | none =>
      if hasUser text then readHost? none (text.drop 2) else some (partsOf (text.flatMap escaped) false)

theorem read?_eq (text : List Char) : read? text = readCleaned? (cleaned text) := rfl

theorem scheme?_slash (rest : List Char) : scheme? ('/' :: rest) = none := by
  have stop : isSchemeCharacter '/' = false := by decide
  simp [scheme?, stop]

/-- No scheme stands in front of a slash. -/
theorem readCleaned?_slash (rest : List Char) :
    readCleaned? ('/' :: rest) =
      if isPlain ('/' :: rest) then some (splitQuery ('/' :: rest))
      else if hasUser ('/' :: rest) then readHost? none (('/' :: rest).drop 2)
      else some (partsOf (('/' :: rest).flatMap escaped) false) := by
  rw [readCleaned?, scheme?_slash]

theorem readCleaned?_path {first text : List Char} {c : Char} (ordinary : Ordinary ('/' :: c :: first))
    (single : c ≠ '/') (prior : '/' :: c :: first <+: text) :
    ∃ parts path, readCleaned? text = some parts ∧ parts.path = some path ∧
      '/' :: c :: first <+: path.toList := by
  have onPath : ∀ d ∈ '/' :: c :: first, (d != '?') = true := by
    intro d member
    have query : d ≠ '?' := ordinary.excludes member (by decide)
    simp [query]
  have inPath : ∀ d ∈ '/' :: c :: first, (!endsPath d) = true := by
    intro d member
    have query : d ≠ '?' := ordinary.excludes member (by decide)
    have fragment : d ≠ '#' := ordinary.excludes member (by decide)
    simp [endsPath, query, fragment]
  by_cases plain : isPlain text = true
  · refine ⟨splitQuery text, _, by rw [readCleaned?, if_pos plain], rfl, ?_⟩
    simpa using prefix_takeWhile prior onPath
  · obtain ⟨rest, rfl⟩ := prior
    have userless : hasUser ('/' :: c :: first ++ rest) = false := by
      simp only [hasUser, List.cons_append]
      split
      next same => exact absurd (List.cons.inj (List.cons.inj same).2).1 single
      next => rfl
    have read : readCleaned? ('/' :: c :: first ++ rest) =
        some (partsOf (('/' :: c :: first ++ rest).flatMap escaped) false) := by
      rw [List.cons_append, readCleaned?_slash, ← List.cons_append, if_neg plain,
        if_neg (by rw [userless]; exact Bool.false_ne_true)]
    have shown := prefix_takeWhile (prefix_escaped ordinary (List.prefix_append _ rest)) inPath
    obtain ⟨tail, same⟩ := shown
    refine ⟨_, String.ofList ('/' :: c :: first ++ tail), read, ?_, by simp⟩
    simp only [partsOf, ← same]
    simp

def pathOf? (parts : Option Parts) : Option String := parts.bind (·.path)

/-- A path after other text was put in its target: the same path, or one that shares
its start up to a slash and goes on with what was put there. -/
def Continues (first : List Char) (old new : List Char) : Prop :=
  new = old ∨ ∃ lead, lead ++ ['/'] <+: old ∧ lead ++ first <+: new

theorem partsOf_slash (front tail : List Char) (needsPath : Bool) :
    (partsOf (front ++ '/' :: tail) needsPath).path =
      if front.any endsPath then (partsOf front needsPath).path
      else some (String.ofList (front ++ '/' :: tail.takeWhile (!endsPath ·))) := by
  have passes : (!endsPath '/') = true := by decide
  split
  next ends =>
    have cut : (front ++ '/' :: tail).takeWhile (!endsPath ·) = front.takeWhile (!endsPath ·) := by
      rw [List.takeWhile_append, if_neg]
      intro whole
      have same := (List.takeWhile_prefix (l := front) (!endsPath ·)).eq_of_length whole
      obtain ⟨c, member, stops⟩ := List.any_eq_true.mp ends
      rw [← same] at member
      have passed := List.all_eq_true.mp (List.all_takeWhile (p := (!endsPath ·)) (l := front)) c member
      simp [stops] at passed
    simp only [partsOf, cut]
  next open_ =>
    have all : ∀ c ∈ front, (!endsPath c) = true := by simpa using open_
    simp only [partsOf, List.takeWhile_append_of_pos all, List.takeWhile_cons, passes]
    simp

theorem splitAuthority_slash (front rest : List Char) :
    splitAuthority (front ++ '/' :: rest) =
      ((splitAuthority front).1, (splitAuthority front).2.1, (splitAuthority front).2.2 ++ '/' :: rest) := by
  have before := takeWhile_stop (p := (!endsAuthority ·)) (c := '/') (by decide) front rest
  have behind := dropWhile_stop (p := (!endsAuthority ·)) (c := '/') (by decide) front rest
  simp only [splitAuthority, before, behind, List.append_assoc]

theorem splitHost_slash (authority middle : List Char) :
    ∃ host behind, ∀ rest, splitHost authority (middle ++ '/' :: rest) = (host, behind ++ '/' :: rest) := by
  by_cases bracketed : isBracketed (withoutPort authority) = true
  · refine ⟨withoutPort authority, if (middle ++ ['/']).head? == some '/' then middle else '/' :: middle,
      fun rest => ?_⟩
    have head : (middle ++ '/' :: rest).head? = (middle ++ ['/']).head? := by cases middle <;> rfl
    simp only [splitHost, bracketed, if_true, head]
    split <;> rfl
  · let name := (withoutPort authority).takeWhile (· != ':')
    refine ⟨if longestHost < name.length then [] else name,
      if name.length < (withoutPort authority).length then
        '/' :: (withoutPort authority).drop name.length ++ middle
      else middle, fun rest => ?_⟩
    simp only [splitHost, if_neg bracketed]
    by_cases ported : ((withoutPort authority).takeWhile (· != ':')).length < (withoutPort authority).length
    · simp [name, ported]
    · simp [name, ported]

section
variable {first tail other : List Char} {path : String} (ordinary : Ordinary first)
  (put : first <+: '/' :: other)
include ordinary put

theorem partsOf_continues {front : List Char} {needsPath : Bool}
    (found : (partsOf (front ++ '/' :: tail) needsPath).path = some path) :
    ∃ new, (partsOf (front ++ '/' :: other) needsPath).path = some new ∧
      Continues first path.toList new.toList := by
  rw [partsOf_slash] at found
  rw [partsOf_slash]
  split at found
  next ends => exact ⟨path, by rw [if_pos ends]; exact found, .inl rfl⟩
  next open_ =>
    cases found
    have passes : ∀ c ∈ first, (!endsPath c) = true := by
      intro c member
      have query : c ≠ '?' := ordinary.excludes member (by decide)
      have fragment : c ≠ '#' := ordinary.excludes member (by decide)
      simp [endsPath, query, fragment]
    refine ⟨_, by rw [if_neg open_], .inr ⟨front, ?_, ?_⟩⟩
    · simp
    · rw [String.toList_ofList, List.prefix_append_right_inj]
      have shown := prefix_takeWhile put passes
      simpa [List.takeWhile_cons, endsPath] using shown

theorem partsOf_escaped_continues {front : List Char} {needsPath : Bool}
    (found : (partsOf ((front ++ '/' :: tail).flatMap escaped) needsPath).path = some path) :
    ∃ new, (partsOf ((front ++ '/' :: other).flatMap escaped) needsPath).path = some new ∧
      Continues first path.toList new.toList := by
  have spread (rest : List Char) :
      (front ++ '/' :: rest).flatMap escaped = front.flatMap escaped ++ '/' :: rest.flatMap escaped := by
    simp [escaped]
  rw [spread] at found
  rw [spread]
  have kept : first <+: '/' :: other.flatMap escaped := by simpa [escaped] using prefix_escaped ordinary put
  exact partsOf_continues ordinary kept found

/-- Which host is read, and whether one can be read at all, is settled before the first
slash behind it. -/
theorem readHost?_continues {scheme : Option String} {front : List Char}
    (found : pathOf? (readHost? scheme (front ++ '/' :: tail)) = some path) :
    ∃ new, pathOf? (readHost? scheme (front ++ '/' :: other)) = some new ∧
      Continues first path.toList new.toList := by
  obtain ⟨host, behind, hosted⟩ := splitHost_slash (splitAuthority front).2.1 (splitAuthority front).2.2
  simp only [readHost?, splitAuthority_slash, hosted, pathOf?] at found ⊢
  split at found
  next readable =>
    rw [if_pos readable]
    exact partsOf_escaped_continues ordinary put found
  next => cases found

end

theorem scheme?_front {start : List Char} (schemed : Schemed start) :
    (∀ rest, scheme? (start ++ '/' :: rest) = none) ∨
      ∃ scheme behind, 2 ≤ behind.length ∧
        ∀ rest, scheme? (start ++ '/' :: rest) = some (scheme, behind ++ '/' :: rest) := by
  obtain ⟨before, after, rfl⟩ := schemed
  have stop : isSchemeCharacter ':' = false := by decide
  obtain ⟨e, more, cut, long⟩ : ∃ e more, before.dropWhile isSchemeCharacter ++ ':' :: '/' :: '/' :: after =
      e :: more ∧ 2 ≤ more.length := by
    cases before.dropWhile isSchemeCharacter with
    | nil => exact ⟨':', _, rfl, by simp⟩
    | cons e more => exact ⟨e, _, rfl, by simp; omega⟩
  have taken (rest : List Char) : (before ++ ':' :: '/' :: '/' :: after ++ '/' :: rest).takeWhile
      isSchemeCharacter = before.takeWhile isSchemeCharacter := by
    rw [List.append_assoc, List.cons_append, takeWhile_stop stop]
  have left (rest : List Char) : (before ++ ':' :: '/' :: '/' :: after ++ '/' :: rest).drop
      (before.takeWhile isSchemeCharacter).length = e :: more ++ '/' :: rest := by
    have whole : before ++ ':' :: '/' :: '/' :: after = before.takeWhile isSchemeCharacter ++ e :: more := by
      rw [← cut, ← List.append_assoc, List.takeWhile_append_dropWhile]
    rw [whole, List.append_assoc, List.drop_left]
  by_cases colon : e = ':'
  · subst colon
    by_cases empty : (before.takeWhile isSchemeCharacter).isEmpty = true
    · refine .inl fun rest => ?_
      simp only [scheme?, taken, left, List.cons_append, empty, if_true]
    · refine .inr ⟨before.takeWhile isSchemeCharacter, more, long, fun rest => ?_⟩
      simp only [scheme?, taken, left, List.cons_append, if_neg empty]
  · refine .inl fun rest => ?_
    simp only [scheme?, taken, left, List.cons_append]
    split
    next same => exact absurd (List.cons.inj same).1 colon
    next => rfl

def Remains (first : List Char) (old new : List Char) : Prop :=
  Continues first old new ∨ first <+: new ∨ ['/', '/'] <+: new

theorem partsOf_start {text : List Char} {path : String} (found : (partsOf text false).path = some path) :
    path.toList <+: text := by
  simp only [partsOf, Bool.and_false, Bool.false_eq_true, if_false] at found
  split at found
  · cases found
  · cases found
    simpa using List.takeWhile_prefix _

section
variable {start tail other first : List Char} {c : Char} {path : String}
  (ordinary : Ordinary ('/' :: c :: first)) (put : '/' :: c :: first <+: '/' :: other)
  (prior : '/' :: c :: first <+: path.toList)
include ordinary put

theorem readSchemed?_continues {scheme : String} {behind : List Char} (long : 2 ≤ behind.length)
    (found : pathOf? (readSchemed? scheme (behind ++ '/' :: tail)) = some path) :
    ∃ new, pathOf? (readSchemed? scheme (behind ++ '/' :: other)) = some new ∧
      Continues ('/' :: c :: first) path.toList new.toList := by
  by_cases hostless : scheme = hostlessScheme
  · simp only [readSchemed?, if_pos hostless] at found ⊢
    exact partsOf_continues ordinary put found
  · match behind, long with
    | e :: f :: behind, _ =>
      by_cases hosted : e = '/' ∧ f = '/'
      · obtain ⟨rfl, rfl⟩ := hosted
        simp only [readSchemed?, if_neg hostless, List.cons_append] at found ⊢
        exact readHost?_continues ordinary put found
      · have read (rest : List Char) : readSchemed? scheme (e :: f :: behind ++ '/' :: rest) =
            if pathSchemes.contains scheme then
              some (partsOf ((e :: f :: behind ++ '/' :: rest).flatMap escaped) false)
            else readHost? (some scheme) (e :: f :: behind ++ '/' :: rest) := by
          simp only [readSchemed?, if_neg hostless, List.cons_append]
          split
          next same => exact absurd (by simp_all) hosted
          next => rfl
        rw [read] at found
        rw [read]
        split at found
        next pathful =>
          rw [if_pos pathful]
          exact partsOf_escaped_continues ordinary put found
        next pathless =>
          rw [if_neg pathless]
          exact readHost?_continues ordinary put found

include prior

/-- A target that begins with no slash has a path only behind a scheme. -/
theorem readCleaned?_schemed {d : Char} (schemed : Schemed (d :: start)) (rootless : d ≠ '/')
    (found : pathOf? (readCleaned? (d :: start ++ '/' :: tail)) = some path) :
    ∃ new, pathOf? (readCleaned? (d :: start ++ '/' :: other)) = some new ∧
      Continues ('/' :: c :: first) path.toList new.toList := by
  have unplain (rest : List Char) : ¬ isPlain (d :: start ++ '/' :: rest) = true := by
    simp [isPlain, slashes, rootless]
  have userless (rest : List Char) : ¬ hasUser (d :: start ++ '/' :: rest) = true := by
    unfold hasUser
    split
    next same => exact absurd (List.cons.inj same).1 rootless
    next => simp
  simp only [readCleaned?, if_neg (unplain _), if_neg (userless _)] at found ⊢
  rcases scheme?_front schemed with bare | ⟨scheme, behind, long, named⟩
  · simp only [bare, pathOf?, Option.bind_some] at found
    have begun := prefix_of_escaped ordinary (prior.trans (partsOf_start found))
    exact absurd (List.cons_prefix_cons.mp begun).1.symm rootless
  · simp only [named] at found ⊢
    exact readSchemed?_continues ordinary put long found

omit put in
/-- A text with one slash in front is a path, whatever else it holds. -/
theorem readCleaned?_rooted {d : Char} (schemed : Schemed ('/' :: d :: start))
    (single : c ≠ '/') (rooted : d ≠ '/')
    (found : pathOf? (readCleaned? ('/' :: d :: start ++ '/' :: tail)) = some path) :
    ∃ new, pathOf? (readCleaned? ('/' :: d :: start ++ '/' :: other)) = some new ∧
      '/' :: c :: first <+: new.toList := by
  have begun : '/' :: c :: first <+: '/' :: d :: start ++ '/' :: tail := by
    have userless : ¬ hasUser ('/' :: d :: start ++ '/' :: tail) = true := by
      unfold hasUser
      split
      next same => exact absurd (List.cons.inj (List.cons.inj same).2).1 rooted
      next => simp
    rw [List.cons_append, readCleaned?_slash, ← List.cons_append, if_neg userless] at found
    split at found
    · cases found
      rw [String.toList_ofList] at prior
      exact prior.trans (List.takeWhile_prefix _)
    · exact prefix_of_escaped ordinary (prior.trans (partsOf_start found))
  have within : '/' :: c :: first <+: '/' :: d :: start := by
    rcases List.prefix_or_prefix_of_prefix begun (List.prefix_append _ _) with inside | beyond
    · exact inside
    · obtain ⟨before, after, same⟩ := schemed
      have colon : ':' ∈ '/' :: c :: first := beyond.subset (by rw [same]; simp)
      exact absurd rfl (ordinary.excludes colon (by decide))
  obtain ⟨parts, new, read, shown, kept⟩ :=
    readCleaned?_path ordinary single (within.trans (List.prefix_append _ ('/' :: other)))
  exact ⟨new, by rw [read]; exact shown, kept⟩

/-- Behind two slashes there is a host with a user, or a path that begins with both. -/
theorem readCleaned?_hosted (single : c ≠ '/')
    (found : pathOf? (readCleaned? ('/' :: '/' :: start ++ '/' :: tail)) = some path) :
    ∃ new, pathOf? (readCleaned? ('/' :: '/' :: start ++ '/' :: other)) = some new ∧
      Remains ('/' :: c :: first) path.toList new.toList := by
  have undoubled : ¬ ['/', '/'] <+: path.toList := by
    intro shown
    have second := List.prefix_of_prefix_length_le shown prior (by simp)
    simp only [List.cons_prefix_cons] at second
    exact single second.2.1.symm
  have plain (rest : List Char) : ∃ new, pathOf? (some (splitQuery ('/' :: '/' :: rest))) = some new ∧
      ['/', '/'] <+: new.toList := ⟨_, rfl, by simp⟩
  have bare (rest : List Char) : ∃ new, pathOf? (some (partsOf (('/' :: '/' :: rest).flatMap escaped) false)) =
      some new ∧ ['/', '/'] <+: new.toList := by
    refine ⟨_, by simp [pathOf?, partsOf, escaped, endsPath]; rfl, by simp⟩
  simp only [List.cons_append, readCleaned?_slash, List.drop_succ_cons, List.drop_zero] at found ⊢
  have host : pathOf? (readHost? none (start ++ '/' :: tail)) = some path := by
    split at found
    · obtain ⟨new, read, shown⟩ := plain (start ++ '/' :: tail)
      rw [found] at read
      cases read
      exact absurd shown undoubled
    · split at found
      · exact found
      · obtain ⟨new, read, shown⟩ := bare (start ++ '/' :: tail)
        rw [found] at read
        cases read
        exact absurd shown undoubled
  split
  · obtain ⟨new, read, shown⟩ := plain (start ++ '/' :: other)
    exact ⟨new, read, .inr (.inr shown)⟩
  · split
    · obtain ⟨new, read, continued⟩ := readHost?_continues ordinary put host
      exact ⟨new, read, .inl continued⟩
    · obtain ⟨new, read, shown⟩ := bare (start ++ '/' :: other)
      exact ⟨new, read, .inr (.inr shown)⟩

theorem readCleaned?_remains (schemed : Schemed start) (single : c ≠ '/')
    (found : pathOf? (readCleaned? (start ++ '/' :: tail)) = some path) :
    ∃ new, pathOf? (readCleaned? (start ++ '/' :: other)) = some new ∧
      Remains ('/' :: c :: first) path.toList new.toList := by
  match start with
  | [] | [d] =>
    obtain ⟨before, after, same⟩ := schemed
    have length := congrArg List.length same
    simp only [List.length_append, List.length_cons, List.length_nil] at length
    omega
  | d :: e :: rest =>
    by_cases rootless : d ≠ '/'
    · obtain ⟨new, read, continued⟩ := readCleaned?_schemed ordinary put prior schemed rootless found
      exact ⟨new, read, .inl continued⟩
    · cases Decidable.of_not_not rootless
      by_cases rooted : e ≠ '/'
      · obtain ⟨new, read, shown⟩ := readCleaned?_rooted ordinary prior schemed single rooted found
        exact ⟨new, read, .inr (.inl shown)⟩
      · cases Decidable.of_not_not rooted
        exact readCleaned?_hosted ordinary put prior single found

end

theorem isPrefixOf?_some {part text after : List Char} (found : part.isPrefixOf? text = some after) :
    text = part ++ after := by
  induction part generalizing text with
  | nil =>
    cases found
    rfl
  | cons c part ih =>
    cases text with
    | nil => cases found
    | cons d text =>
      change (if c == d then part.isPrefixOf? text else none) = some after at found
      split at found
      next same => rw [eq_of_beq same, ih found, List.cons_append]
      next => cases found

theorem cutAt?_some {part text before after : List Char} (found : Text.cutAt? part text = some (before, after)) :
    text = before ++ part ++ after := by
  induction text generalizing before with
  | nil =>
    simp only [Text.cutAt?] at found
    split at found
    next empty =>
      cases found
      simpa using empty
    next => cases found
  | cons c rest ih =>
    simp only [Text.cutAt?] at found
    split at found
    next left here =>
      cases found
      exact isPrefixOf?_some here
    next =>
      obtain ⟨⟨earlier, left⟩, deeper, same⟩ := Option.map_eq_some_iff.mp found
      cases same
      rw [ih deeper]
      simp

theorem origin_cases (target : List Char) :
    origin target = [] ∨ ∃ rest, target = origin target ++ '/' :: rest ∧ Schemed (origin target) ∧
      ¬ (target.head? == some '/') = true := by
  by_cases rooted : (target.head? == some '/') = true
  · exact .inl (by simp only [origin, if_pos rooted])
  cases cut : Text.cutAt? "://".toList (target.takeWhile (· != '?')) with
  | none => exact .inl (by simp only [origin, if_neg rooted, cut])
  | some parts =>
    obtain ⟨scheme, after⟩ := parts
    have whole : target = scheme ++ "://".toList ++ (after ++ target.dropWhile (· != '?')) := by
      rw [← List.append_assoc, ← cutAt?_some cut, List.takeWhile_append_dropWhile]
    obtain ⟨behind, same⟩ : ∃ behind, target = scheme ++ "://".toList ++ behind := ⟨_, whole⟩
    have marked : (scheme ++ "://".toList).length = scheme.length + 3 := by simp
    have dropped : target.drop (scheme.length + 3) = behind := by
      rw [same, ← marked, List.drop_left]
    simp only [origin, if_neg rooted, cut, dropped]
    split
    next short =>
      obtain ⟨c, rest, host, stops⟩ := takeWhile_shorter short
      have slash : c = '/' := by simpa using stops
      subst slash
      have length : scheme.length + 3 + (behind.takeWhile (· != '/')).length =
          (scheme ++ "://".toList ++ behind.takeWhile (· != '/')).length := by simp; omega
      have split : target = scheme ++ "://".toList ++ behind.takeWhile (· != '/') ++ '/' :: rest := by
        rw [List.append_assoc, ← host, same]
      have taken : target.take (scheme.length + 3 + (behind.takeWhile (· != '/')).length) =
          scheme ++ "://".toList ++ behind.takeWhile (· != '/') := by
        rw [length]
        conv => lhs; rw [split]
        exact List.take_left
      rw [taken]
      exact .inr ⟨rest, split, ⟨scheme, behind.takeWhile (· != '/'), by simp⟩, rooted⟩
    next => exact .inl rfl

theorem path?_rootless {text : List Char} (rootless : ¬ (text.head? == some '/') = true) :
    path? (String.ofList text) = pathOf? (readCleaned? (cleaned text)) := by
  simp only [path?, parse?, String.toList_ofList, Bool.and_eq_true]
  rw [if_neg fun both => rootless both.1, read?_eq]
  rfl

theorem path?_ordinary {first text : List Char} {c : Char} (ordinary : Ordinary ('/' :: c :: first))
    (single : c ≠ '/') (prior : '/' :: c :: first <+: text) :
    ∃ path, path? (String.ofList text) = some path ∧ '/' :: c :: first <+: path.toList := by
  simp only [path?, parse?, String.toList_ofList]
  split
  · have onPath : ∀ d ∈ '/' :: c :: first, (d != '?') = true := by
      intro d member
      have query : d ≠ '?' := ordinary.excludes member (by decide)
      simp [query]
    exact ⟨_, rfl, by simpa using prefix_takeWhile prior onPath⟩
  · obtain ⟨rest, rfl⟩ := prior
    obtain ⟨tail, whole, kept⟩ := cleaned_slash [] (c :: first ++ rest)
    have begun := kept _ ordinary (List.prefix_append ('/' :: c :: first) rest)
    obtain ⟨parts, new, read, shown, kept⟩ := readCleaned?_path ordinary single begun
    refine ⟨new, ?_, kept⟩
    have same : cleaned ('/' :: c :: first ++ rest) = '/' :: tail := whole
    rw [read?_eq, same, read]
    exact shown

/-- A target keeps a path when what was taken of it is put back. -/
theorem restored_path {target path : String} {taken first : List Char} {c : Char}
    (ordinary : Ordinary ('/' :: c :: first)) (single : c ≠ '/') (found : path? target = some path)
    (matched : taken <+: path.toList) (begun : '/' :: c :: first <+: taken) :
    ∃ new, path? (String.ofList (restored target.toList taken)) = some new ∧
      Remains ('/' :: c :: first) path.toList new.toList := by
  rcases origin_cases target.toList with none_front | ⟨rest, whole, schemed, rootless⟩
  · have front : '/' :: c :: first <+: restored target.toList taken := by
      simp only [restored, none_front, List.nil_append]
      exact begun.trans (List.prefix_append _ _)
    obtain ⟨new, read, kept⟩ := path?_ordinary ordinary single front
    exact ⟨new, read, .inr (.inl kept)⟩
  · obtain ⟨more, same⟩ := begun
    have put : restored target.toList taken = origin target.toList ++ '/' ::
        (c :: first ++ more ++ target.toList.drop ((origin target.toList).length + taken.length)) := by
      simp [restored, ← same]
    have still : ¬ ((restored target.toList taken).head? == some '/') = true := by
      obtain ⟨before, after, front⟩ := schemed
      rw [whole, front] at rootless
      rw [put, front]
      cases before with
      | nil => simp
      | cons d before => simpa using rootless
    have old := path?_rootless rootless
    rw [String.ofList_toList, found] at old
    obtain ⟨tail, cleaned, -⟩ := cleaned_slash (origin target.toList) rest
    rw [whole, cleaned] at old
    obtain ⟨other, cleaned', kept⟩ := cleaned_slash (origin target.toList)
      (c :: first ++ more ++ target.toList.drop ((origin target.toList).length + taken.length))
    rw [path?_rootless still, put, cleaned']
    exact readCleaned?_remains ordinary (kept _ ordinary (by simp))
      (by rw [← same] at matched; exact (List.prefix_append _ _).trans matched) schemed.cleaned single old.symm

def PlainTarget (target : String) : Prop :=
  target.toList.head? = some '/' ∧ target.toList.any isUnusual = false

theorem PlainTarget.restored {target path : String} (plain : PlainTarget target)
    (found : path? target = some path) {taken : List Char} (matched : taken <+: path.toList) :
    String.ofList (restored target.toList taken) = target := by
  have read : parse? target = some (splitQuery target.toList) := by
    simp [parse?, plain.1, plain.2]
  simp only [path?, read, Option.bind_some, splitQuery, Option.some.injEq] at found
  subst found
  rw [String.toList_ofList] at matched
  obtain ⟨rest, same⟩ := matched.trans (List.takeWhile_prefix _)
  have bare : origin target.toList = [] := by simp [origin, plain.1]
  have whole : Target.restored target.toList taken = target.toList := by
    simp only [Target.restored, bare, List.nil_append, List.length_nil, Nat.zero_add]
    rw [← same, List.drop_left]
  rw [whole, String.ofList_toList]

end TenantAccess.Proofs
