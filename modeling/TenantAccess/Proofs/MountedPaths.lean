import TenantAccess.Proofs.RestoredTargets
import TenantAccess.Service.Basic

/-! Which mounts a request can meet. A request that one mount hands on comes back with
the target it was found with, or with one that starts alike, so no request gets from
the organizations to the caller's context. -/

namespace TenantAccess.Proofs
open Pattern

theorem nextSegment?_some {path text rest : List Char} (found : nextSegment? path = some (text, rest)) :
    path = '/' :: text ++ rest ∧ '/' ∉ text ∧ (rest = [] ∨ ∃ more, rest = '/' :: more) := by
  unfold nextSegment? at found
  split at found
  next path =>
    cases found
    refine ⟨by rw [List.cons_append, List.takeWhile_append_dropWhile], fun member => ?_, ?_⟩
    · have passed := List.all_eq_true.mp (List.all_takeWhile (p := (· != '/')) (l := path)) '/' member
      simp at passed
    · cases left : path.dropWhile (· != '/') with
      | nil => exact .inl rfl
      | cons c more =>
        have stops := List.head_dropWhile_not (· != '/') (l := path) (by simp [left])
        simp only [left, List.head_cons, bne_eq_false_iff_eq] at stops
        exact .inr ⟨more, by rw [stops]⟩
  next => cases found

theorem toLower_alphanum {c : Char} (lower : c.toLower.isAlphanum = true) : c.isAlphanum = true := by
  unfold Char.toLower at lower
  split at lower
  next upper =>
    unfold Char.isAlphanum Char.isAlpha Char.isUpper
    simpa [UInt32.le_iff_toNat_le] using! .inl (.inl upper)
  next => exact lower

theorem sameLetters_alphanum {expected text : List Char} (same : sameLetters expected text = true)
    (plain : (expected.map Char.toLower).all Char.isAlphanum = true) : ∀ c ∈ text, c.isAlphanum = true := by
  intro c member
  rw [eq_of_beq same] at plain
  exact toLower_alphanum (List.all_eq_true.mp plain _ (List.mem_map_of_mem member))

structure Opens (first second : String) (path one two rest : List Char) : Prop where
  path : path = '/' :: one ++ '/' :: two ++ rest
  segments : '/' ∉ one ∧ '/' ∉ two
  ended : rest = [] ∨ ∃ more, rest = '/' :: more
  letters : sameLetters first.toList one = true ∧ sameLetters second.toList two = true

theorem take?_literal {expected : String} {pattern : Pattern} {path taken left : List Char}
    {raw : List (String × List Char)}
    (matched : take? (.literal expected :: pattern) path = some (raw, taken, left)) :
    ∃ text rest more, nextSegment? path = some (text, rest) ∧ sameLetters expected.toList text = true ∧
      take? pattern rest = some (raw, more, left) ∧ taken = '/' :: text ++ more := by
  simp only [take?] at matched
  split at matched
  next => cases matched
  next text rest found =>
    split at matched
    next same =>
      obtain ⟨⟨params, more, behind⟩, deeper, whole⟩ := Option.map_eq_some_iff.mp matched
      cases whole
      exact ⟨text, rest, more, found, same, deeper, rfl⟩
    next => cases matched

theorem take?_opens {first second : String} {pattern : Pattern} {path taken left : List Char}
    {raw : List (String × List Char)}
    (matched : take? (.literal first :: .literal second :: pattern) path = some (raw, taken, left)) :
    ∃ one two rest more, Opens first second path one two rest ∧ take? pattern rest = some (raw, more, left) ∧
      taken = '/' :: one ++ ('/' :: two ++ more) := by
  obtain ⟨one, behind, _, opened, same, later, rfl⟩ := take?_literal matched
  obtain ⟨two, rest, more, next, alike, deeper, rfl⟩ := take?_literal later
  obtain ⟨rfl, unslashed, -⟩ := nextSegment?_some opened
  obtain ⟨rfl, plain, ended⟩ := nextSegment?_some next
  exact ⟨one, two, rest, more, ⟨by simp, ⟨unslashed, plain⟩, ended, same, alike⟩, deeper, rfl⟩

theorem segment_unique {one other : List Char} (plain : '/' ∉ one) (unslashed : '/' ∉ other)
    {rest more : List Char} (ended : rest = [] ∨ ∃ tail, rest = '/' :: tail)
    (stopped : more = [] ∨ ∃ tail, more = '/' :: tail) (same : one ++ rest = other ++ more) :
    one = other ∧ rest = more := by
  induction one generalizing other with
  | nil =>
    cases other with
    | nil => exact ⟨rfl, same⟩
    | cons c other =>
      rcases ended with rfl | ⟨tail, rfl⟩
      · cases same
      · obtain ⟨rfl, -⟩ := List.cons.inj same
        exact absurd List.mem_cons_self unslashed
  | cons c one ih =>
    cases other with
    | nil =>
      rcases stopped with rfl | ⟨tail, rfl⟩
      · cases same
      · obtain ⟨rfl, -⟩ := List.cons.inj same
        exact absurd List.mem_cons_self plain
    | cons d other =>
      obtain ⟨rfl, later⟩ := List.cons.inj same
      obtain ⟨rfl, kept⟩ := ih (fun member => plain (List.mem_cons_of_mem _ member))
        (fun member => unslashed (List.mem_cons_of_mem _ member)) later
      exact ⟨rfl, kept⟩

theorem Opens.unique {first second third fourth : String} {path one two rest three four more : List Char}
    (opens : Opens first second path one two rest) (other : Opens third fourth path three four more) :
    one = three ∧ two = four := by
  have same := opens.path.symm.trans other.path
  simp only [List.cons_append, List.append_assoc, List.cons.injEq, true_and] at same
  obtain ⟨rfl, later⟩ := segment_unique opens.segments.1 other.segments.1 (.inr ⟨_, rfl⟩) (.inr ⟨_, rfl⟩) same
  obtain ⟨rfl, -⟩ := segment_unique opens.segments.2 other.segments.2 opens.ended other.ended (List.cons.inj later).2
  exact ⟨rfl, rfl⟩

/-- Paths under the organizations, with one or without. -/
def organizationsPattern : Pattern := [.literal "v1", .literal "orgs"]

theorem Opens.excludes {first second third fourth : String} {path one two rest : List Char}
    (opens : Opens first second path one two rest) {pattern : Pattern}
    (apart : sameLetters fourth.toList two = false) :
    take? (.literal third :: .literal fourth :: pattern) path = none := by
  rw [Option.eq_none_iff_forall_ne_some]
  rintro ⟨raw, taken, left⟩ matched
  obtain ⟨three, four, more, _, other, -, -⟩ := take?_opens matched
  obtain ⟨-, rfl⟩ := opens.unique other
  rw [other.letters.2] at apart
  cases apart

/-- What was put in front of a path ends with one of its segments. -/
theorem lead_cases {one rest lead : List Char} (plain : '/' ∉ one) (prior : lead ++ ['/'] <+: one ++ '/' :: rest) :
    lead = one ∨ ∃ more, lead = one ++ '/' :: more ∧ more ++ ['/'] <+: rest := by
  induction one generalizing lead with
  | nil =>
    cases lead with
    | nil => exact .inl rfl
    | cons d lead =>
      obtain ⟨rfl, later⟩ := List.cons_prefix_cons.mp prior
      exact .inr ⟨lead, rfl, later⟩
  | cons c one ih =>
    cases lead with
    | nil =>
      obtain ⟨rfl, -⟩ := List.cons_prefix_cons.mp prior
      exact absurd List.mem_cons_self plain
    | cons d lead =>
      obtain ⟨rfl, later⟩ := List.cons_prefix_cons.mp prior
      rcases ih (fun member => plain (List.mem_cons_of_mem _ member)) later with rfl | ⟨more, rfl, deeper⟩
      · exact .inl rfl
      · exact .inr ⟨more, rfl, deeper⟩

theorem sameLetters_apart {expected other text : List Char} (same : sameLetters expected text = true)
    (differ : (other.map Char.toLower == expected.map Char.toLower) = false) :
    sameLetters other text = false := by
  rw [sameLetters, ← eq_of_beq same]
  exact differ

/-- A path that remains of one with two given segments has no other second segment
than one of these two. -/
theorem Remains.excludes {first second other : String} {old new one two rest : List Char}
    (opens : Opens first second old one two ('/' :: rest))
    (remains : Remains ('/' :: one ++ ('/' :: two ++ ['/'])) old new)
    (apart : sameLetters other.toList one = false ∧ sameLetters other.toList two = false)
    (named : sameLetters first.toList [] = false) (pattern : Pattern) :
    take? (.literal first :: .literal other :: pattern) new = none := by
  have kept (more : List Char) : take? (.literal first :: .literal other :: pattern)
      ('/' :: one ++ ('/' :: two ++ ['/']) ++ more) = none := by
    have again : Opens first second ('/' :: one ++ ('/' :: two ++ ['/']) ++ more) one two ('/' :: more) :=
      ⟨by simp, opens.segments, .inr ⟨more, rfl⟩, opens.letters⟩
    exact again.excludes apart.2
  have repeated (more : List Char) : take? (.literal first :: .literal other :: pattern)
      ('/' :: one ++ '/' :: one ++ '/' :: more) = none := by
    have twice : Opens first first ('/' :: one ++ '/' :: one ++ '/' :: more) one one ('/' :: more) :=
      ⟨rfl, ⟨opens.segments.1, opens.segments.1⟩, .inr ⟨more, rfl⟩, opens.letters.1, opens.letters.1⟩
    exact twice.excludes apart.1
  rcases remains with (rfl | ⟨lead, prior, put⟩) | ⟨more, rfl⟩ | ⟨more, rfl⟩
  · exact opens.excludes apart.2
  · obtain ⟨more, rfl⟩ := put
    cases lead with
    | nil => exact kept more
    | cons c lead =>
      rw [opens.path] at prior
      simp only [List.cons_append, List.append_assoc] at prior
      obtain ⟨rfl, inside⟩ := List.cons_prefix_cons.mp prior
      rcases lead_cases opens.segments.1 inside with rfl | ⟨lead, rfl, deeper⟩
      · simpa using repeated (two ++ '/' :: more)
      · rcases lead_cases opens.segments.2 deeper with rfl | ⟨lead, rfl, -⟩
        · simpa using kept (one ++ '/' :: (lead ++ '/' :: more))
        · simpa using kept (lead ++ '/' :: (one ++ '/' :: (two ++ '/' :: more)))
  · exact kept more
  · have empty : nextSegment? ('/' :: '/' :: more) = some ([], '/' :: more) := by simp [nextSegment?]
    simp [take?, empty, named]

theorem decodeParams_taken {taken kept : List Char} {params done : List (String × Option Json)}
    {raw : List (String × List Char)} (decoded : decodeParams taken done raw = .yes kept params) :
    kept = taken := by
  induction raw generalizing done with
  | nil =>
    cases decoded
    rfl
  | cons entry more ih =>
    simp only [decodeParams] at decoded
    split at decoded
    · exact ih decoded
    · cases decoded

theorem take?_whole {pattern : Pattern} {path taken left : List Char} {raw : List (String × List Char)}
    (matched : take? pattern path = some (raw, taken, left)) : path = taken ++ left := by
  induction pattern generalizing path raw taken with
  | nil =>
    cases matched
    rfl
  | cons segment pattern ih =>
    simp only [take?] at matched
    split at matched
    next => cases matched
    next text rest found =>
      obtain ⟨rfl, -, -⟩ := nextSegment?_some found
      split at matched <;> split at matched <;> first
        | cases matched
        | obtain ⟨⟨params, more, behind⟩, deeper, whole⟩ := Option.map_eq_some_iff.mp matched
          cases whole
          rw [ih deeper, List.append_assoc]

theorem takeSlash_prior (left : List Char) : takeSlash left <+: left := by
  unfold takeSlash
  split
  · exact List.prefix_refl _
  · exact ⟨_, rfl⟩
  · exact List.nil_prefix

theorem mounted_everywhere (path : String) : mounted [] path = .yes [] [] := rfl

theorem mounted_no {segment : Segment} {pattern : Pattern} {path : String}
    (unmatched : take? (segment :: pattern) path.toList = none) : mounted (segment :: pattern) path = .no := by
  simp [mounted, unmatched]

theorem mounted_takes {segment : Segment} {pattern : Pattern} {path : String} {taken : List Char}
    {params : List (String × Option Json)} (matched : mounted (segment :: pattern) path = .yes taken params) :
    taken <+: path.toList ∧
      ∃ raw front left, take? (segment :: pattern) path.toList = some (raw, front, left) ∧ front <+: taken := by
  simp only [mounted, List.isEmpty_cons, Bool.false_eq_true, if_false] at matched
  split at matched
  next => cases matched
  next raw front left found =>
    obtain rfl := decodeParams_taken matched
    refine ⟨?_, raw, front, left, found, List.prefix_append _ _⟩
    rw [take?_whole found, List.prefix_append_right_inj]
    exact takeSlash_prior left

/-- The targets that a request can have had before a mount on the pattern: its own one,
and what such mounts put back. -/
inductive HandedOn (pattern : Pattern) (arrival : String) : String → Prop where
  | arrived : HandedOn pattern arrival arrival
  | again {target path : String} {taken : List Char} {params : List (String × Option Json)}
      (earlier : HandedOn pattern arrival target) (found : Target.path? target = some path)
      (matched : pattern.mounted path = .yes taken params) :
      HandedOn pattern arrival (String.ofList (Target.restored target.toList taken))

/-- The parameters that a stage mounted on the pattern can see. Of a target that is a
path, they are those of this path. -/
structure Seen (pattern : Pattern) (arrival : Request) (params : List (String × Option Json)) : Prop where
  matched : ∃ target path taken, HandedOn pattern arrival.target target ∧ Target.path? target = some path ∧
    pattern.mounted path = .yes taken params
  entered : ∃ path taken given, Target.path? arrival.target = some path ∧ pattern.mounted path = .yes taken given
  plain : PlainTarget arrival.target → ∃ path taken, Target.path? arrival.target = some path ∧
    pattern.mounted path = .yes taken params

theorem HandedOn.entered {pattern : Pattern} {arrival target path : String} {taken : List Char}
    {params : List (String × Option Json)} (handed : HandedOn pattern arrival target)
    (found : Target.path? target = some path) (matched : pattern.mounted path = .yes taken params) :
    ∃ path taken given, Target.path? arrival = some path ∧ pattern.mounted path = .yes taken given := by
  induction handed generalizing path taken params with
  | arrived => exact ⟨path, taken, params, found, matched⟩
  | again earlier reached fitted ih => exact ih reached fitted

theorem HandedOn.plain {segment : Segment} {pattern : Pattern} {arrival target : String}
    (handed : HandedOn (segment :: pattern) arrival target) (plain : PlainTarget arrival) : target = arrival := by
  induction handed with
  | arrived => rfl
  | again earlier found matched ih =>
    subst ih
    exact plain.restored found (mounted_takes matched).1

theorem HandedOn.seen {segment : Segment} {pattern : Pattern} {arrival : Request} {target path : String}
    {taken : List Char} {params : List (String × Option Json)}
    (handed : HandedOn (segment :: pattern) arrival.target target) (found : Target.path? target = some path)
    (matched : mounted (segment :: pattern) path = .yes taken params) :
    Seen (segment :: pattern) arrival params := by
  refine ⟨⟨target, path, taken, handed, found, matched⟩, handed.entered found matched, fun plain => ?_⟩
  obtain rfl := handed.plain plain
  exact ⟨path, taken, found, matched⟩

/-- Two words that open a path, with nothing in them that a target could change. -/
theorem Opens.ordinary {first second : String} {path one two rest : List Char}
    (opens : Opens first second path one two rest)
    (plain : ((first.toList ++ second.toList).map Char.toLower).all Char.isAlphanum = true) :
    Ordinary ('/' :: one ++ ('/' :: two ++ ['/'])) := by
  rw [List.map_append, List.all_append, Bool.and_eq_true] at plain
  intro c member
  simp only [List.cons_append, List.mem_cons, List.mem_append, List.not_mem_nil, or_false] at member
  rcases member with slash | letter | slash | letter | slash
  · exact .inl slash
  · exact .inr (sameLetters_alphanum opens.letters.1 plain.1 c letter)
  · exact .inl slash
  · exact .inr (sameLetters_alphanum opens.letters.2 plain.2 c letter)
  · exact .inl slash

/-- The two kinds of guarded paths begin with the same word, and go on with another one each. -/
structure Guarded (pattern : Pattern) : Prop where
  opened : ∃ second rest, pattern = .literal "v1" :: .literal second :: rest ∧
    ((second.toList.map Char.toLower).all Char.isAlphanum = true)

theorem Guarded.cons {pattern : Pattern} (guarded : Guarded pattern) :
    ∃ segment rest, pattern = segment :: rest := by
  obtain ⟨second, rest, rfl, -⟩ := guarded.opened
  exact ⟨_, _, rfl⟩

theorem organization_guarded : Guarded Service.organizationPattern := ⟨"orgs", _, rfl, by decide⟩

theorem context_guarded : Guarded Service.contextPattern := ⟨"context", _, rfl, by decide⟩

/-- A request keeps a path however often it is handed on. -/
theorem HandedOn.rooted {pattern : Pattern} (guarded : Guarded pattern) {arrival target : String}
    (handed : HandedOn pattern arrival target) (rooted : ∃ path, Target.path? arrival = some path) :
    ∃ path, Target.path? target = some path := by
  induction handed with
  | arrived => exact rooted
  | again earlier found matched _ =>
    obtain ⟨second, more, rfl, lettered⟩ := guarded.opened
    obtain ⟨prior, raw, front, left, taken, begun⟩ := mounted_takes matched
    obtain ⟨one, two, rest, after, opens, -, rfl⟩ := take?_opens taken
    have letters := sameLetters_alphanum opens.letters.1 (by decide)
    cases one with
    | nil => exact absurd opens.letters.1 (by decide)
    | cons c one =>
      have ordinary : Ordinary ('/' :: c :: one) := by
        intro d member
        rcases List.mem_cons.mp member with slash | letter
        · exact .inl slash
        · exact .inr (letters d letter)
      have single : c ≠ '/' := by
        rintro rfl
        exact opens.segments.1 List.mem_cons_self
      obtain ⟨path, kept, -⟩ := restored_path ordinary single found prior
        ((List.prefix_append ('/' :: c :: one) _).trans begun)
      exact ⟨path, kept⟩

theorem organization_opens {path : String} {raw : List (String × List Char)} {front left : List Char}
    (matched : take? Service.organizationPattern path.toList = some (raw, front, left)) :
    ∃ one two more, Opens "v1" "orgs" path.toList one two ('/' :: more) ∧
      '/' :: one ++ ('/' :: two ++ ['/']) <+: front := by
  obtain ⟨one, two, rest, after, opens, last, rfl⟩ := take?_opens matched
  simp only [take?] at last
  split at last
  next => cases last
  next text behind found =>
    obtain ⟨rfl, -, -⟩ := nextSegment?_some found
    split at last
    next => cases last
    next =>
      cases last
      exact ⟨one, two, text ++ behind, opens, text, by simp⟩

theorem Opens.notContext {path one two rest : List Char} (opens : Opens "v1" "orgs" path one two rest) :
    sameLetters "context".toList one = false ∧ sameLetters "context".toList two = false :=
  ⟨sameLetters_apart opens.letters.1 (by decide), sameLetters_apart opens.letters.2 (by decide)⟩

/-- What was found under the organizations stays away from the caller's context. -/
theorem HandedOn.elsewhere {arrival target path : String} (found : Target.path? arrival = some path)
    (organization : Service.organizationPattern.mounted path ≠ .no)
    (handed : HandedOn Service.organizationPattern arrival target) :
    ∃ path, Target.path? target = some path ∧ Service.contextPattern.mounted path = .no := by
  cases handed with
  | arrived =>
    refine ⟨path, found, mounted_no ?_⟩
    cases taken : take? Service.organizationPattern path.toList with
    | none => exact absurd (mounted_no taken) organization
    | some parts =>
      obtain ⟨one, two, more, opens, -⟩ := organization_opens taken
      exact opens.excludes opens.notContext.2
  | again earlier reached matched =>
    obtain ⟨prior, raw, front, left, taken, begun⟩ := mounted_takes matched
    obtain ⟨one, two, more, opens, start⟩ := organization_opens taken
    have ordinary := opens.ordinary (by decide)
    cases one with
    | nil => exact absurd opens.letters.1 (by decide)
    | cons c one =>
      have single : c ≠ '/' := by
        rintro rfl
        exact opens.segments.1 List.mem_cons_self
      obtain ⟨new, kept, remains⟩ := restored_path ordinary single reached prior (start.trans begun)
      exact ⟨new, kept, mounted_no (remains.excludes opens opens.notContext (by decide) [])⟩

end TenantAccess.Proofs
