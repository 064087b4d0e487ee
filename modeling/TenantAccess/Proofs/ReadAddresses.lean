import Mathlib.Data.List.DropRight
import TenantAccess.Proofs.RestoredTargets
import TenantAccess.Url.Validity

/-! What an absolute address asks for: its authority, and its path with the dots in it resolved.
Characters stay as they are written. Escaping them, and mapping a host to ASCII, is left out: neither
moves a character from one part of an address to another. -/

namespace TenantAccess.Proofs
open Url

/-- Schemes differ in what parts the segments of a path, and in what may stand before the path. -/
inductive AddressKind where
  | special
  | file
  | other
  deriving DecidableEq

structure Address where
  scheme : String
  authority : Option (List Char)
  path : List Char
  query : Option (List Char)
  fragment : Option (List Char)
  deriving DecidableEq

def isCut (c : Char) : Bool := c == '?' || c == '#'

def isDoubleDot (segment : List Char) : Bool :=
  ["..", ".%2e", "%2e.", "%2e%2e"].contains (String.ofList (segment.map Char.toLower))

def isDotted (segment : List Char) : Bool :=
  isDoubleDot segment || [".", "%2e"].contains (String.ofList (segment.map Char.toLower))

def spell (segments : List (List Char)) : List Char := segments.flatMap ('/' :: ·)

namespace AddressKind

def ofScheme (scheme : String) : AddressKind :=
  if scheme = "file" then .file else if specialSchemes.contains scheme then .special else .other

def isSlash (kind : AddressKind) (c : Char) : Bool :=
  c == '/' || (kind != .other && c == '\\')

def cutAuthority (kind : AddressKind) (text : List Char) : Option (List Char) × List Char :=
  (some (text.takeWhile (!kind.isSlash ·)), text.dropWhile (!kind.isSlash ·))

def afterSlashes? (kind : AddressKind) : List Char → Option (List Char)
  | first :: second :: rest => if kind.isSlash first && kind.isSlash second then some rest else none
  | _ => none

/-- The authority, where there is one, and the text that the path is read from. Well-known schemes
take any number of slashes before the authority. A drive is no authority but begins the path. -/
def front (kind : AddressKind) (text : List Char) : Option (List Char) × List Char :=
  if kind = .special then kind.cutAuthority (text.dropWhile kind.isSlash)
  else match kind.afterSlashes? text with
    | some rest =>
      if kind = .file ∧ (kind.cutAuthority rest).1.any isDrive then (some [], rest) else kind.cutAuthority rest
    | none => (if kind = .file then some [] else none, text)

/-- Two dots leave the last segment, though never the drive of a local file. -/
def enter (kind : AddressKind) (segments : List (List Char)) (segment : List Char) : List (List Char) :=
  if isDoubleDot segment then
    if kind = .file ∧ segments.length = 1 ∧ segments.all isDrive then segments else segments.dropLast
  else if isDotted segment then segments
  else if kind = .file ∧ segments = [] ∧ isDrive segment then [segment.take 1 ++ [':']]
  else segments ++ [segment]

def segments (kind : AddressKind) (text : List Char) : List (List Char) :=
  (text.splitOnP kind.isSlash).foldl kind.enter []

/-- Dots at the end name a directory, as a slash does. -/
def isOpenEnded (kind : AddressKind) (text : List Char) : Bool :=
  (text.splitOnP kind.isSlash).getLast?.any isDotted

def isOpaque (kind : AddressKind) (text : List Char) : Bool :=
  kind == .other && text.head? != some '/'

def inner (kind : AddressKind) : List Char → List Char
  | [] => []
  | c :: rest => if kind.isSlash c then rest else c :: rest

def path (kind : AddressKind) (text : List Char) : List Char :=
  if kind.isOpaque text then text
  else spell (kind.segments (kind.inner text) ++ if kind.isOpenEnded (kind.inner text) then [[]] else [])

def directory (kind : AddressKind) (text : List Char) : List Char :=
  if text = [] ∨ kind.isOpaque text then text else spell (kind.segments (kind.inner text))

end AddressKind

namespace Address

def ofRest (scheme : String) (rest : List Char) : Address where
  scheme := scheme
  authority := ((AddressKind.ofScheme scheme).front (rest.takeWhile (!isCut ·))).1
  path := (AddressKind.ofScheme scheme).path ((AddressKind.ofScheme scheme).front (rest.takeWhile (!isCut ·))).2
  query := match rest.dropWhile (!isCut ·) with
    | '?' :: tail => some (tail.takeWhile (· != '#'))
    | _ => none
  fragment := match rest.dropWhile (· != '#') with
    | _ :: tail => some tail
    | [] => none

def ofText? (text : String) : Option Address :=
  if isValid text then (scheme? (cleaned text.toList)).map fun (scheme, rest) => ofRest scheme rest
  else none

/-- The same place with a path behind its own, which loses the slashes at its end. -/
def extended (address : Address) (added : List Char) : Address :=
  { address with path := address.path.rdropWhile (· == '/') ++ added, query := none, fragment := none }

end Address

def Margin (text : List Char) : Prop := ∀ c ∈ text, isMargin c = true

theorem isSlash_slash (kind : AddressKind) : kind.isSlash '/' = true := by
  simp [AddressKind.isSlash]

section
variable {c : Char}

theorem margin_ne (margin : isMargin c = true) {other : Char} (seen : isMargin other = false) : c ≠ other := by
  rintro rfl
  rw [margin] at seen
  cases seen

theorem margin_slashless (kind : AddressKind) (margin : isMargin c = true) : kind.isSlash c = false := by
  have slash : c ≠ '/' := margin_ne margin rfl
  have back : c ≠ '\\' := margin_ne margin rfl
  simp [AddressKind.isSlash, slash, back]

theorem margin_uncut (margin : isMargin c = true) : isCut c = false := by
  have query : c ≠ '?' := margin_ne margin rfl
  have fragment : c ≠ '#' := margin_ne margin rfl
  simp [isCut, query, fragment]

theorem margin_toLower (margin : isMargin c = true) : c.toLower = c := by
  have small : c.toNat ≤ 0x20 := by simpa [isMargin] using margin
  refine dif_neg fun between => ?_
  have large : 65 ≤ c.toNat := UInt32.le_iff_toNat_le.mp between.1
  omega

variable {segment : List Char}

/-- Dots are spelled without blanks. -/
theorem margin_undotted (member : c ∈ segment) (margin : isMargin c = true) : isDotted segment = false := by
  have solid : (["..", ".%2e", "%2e.", "%2e%2e", ".", "%2e"].map String.toList).all
      (fun text => text.all (!isMargin ·)) = true := by decide
  apply Bool.eq_false_iff.mpr
  intro dotted
  have listed : String.ofList (segment.map Char.toLower) ∈ ["..", ".%2e", "%2e.", "%2e%2e", ".", "%2e"] := by
    simp only [isDotted, isDoubleDot, Bool.or_eq_true, List.contains_iff_mem] at dotted
    exact List.mem_append.mpr dotted
  have spelled := List.mem_map_of_mem (f := String.toList) listed
  rw [String.toList_ofList] at spelled
  have small := List.mem_map_of_mem (f := Char.toLower) member
  rw [margin_toLower margin] at small
  have seen := List.all_eq_true.mp (List.all_eq_true.mp solid _ spelled) c small
  rw [margin] at seen
  cases seen

theorem margin_undriven (member : c ∈ segment) (margin : isMargin c = true) : isDrive segment = false := by
  have small : c.toNat ≤ 0x20 := by simpa [isMargin] using margin
  unfold isDrive
  split
  next letter mark =>
    rcases List.mem_pair.mp member with rfl | rfl
    · have other : c.isAlpha = false := by
        apply Bool.eq_false_iff.mpr
        intro alpha
        unfold Char.isAlpha Char.isUpper Char.isLower at alpha
        simp only [Bool.or_eq_true, Bool.and_eq_true, decide_eq_true_eq, UInt32.le_iff_toNat_le, ge_iff_le] at alpha
        change (65 ≤ c.toNat ∧ c.toNat ≤ 90) ∨ (97 ≤ c.toNat ∧ c.toNat ≤ 122) at alpha
        omega
      simp [other]
    · have colon : c ≠ ':' := margin_ne margin rfl
      have bar : c ≠ '|' := margin_ne margin rfl
      simp [colon, bar]
  · rfl

end

/-- A segment that a path takes as it is. -/
structure Straight (segment : List Char) : Prop where
  dotless : isDotted segment = false
  driveless : isDrive segment = false

instance (segment : List Char) : Decidable (Straight segment) :=
  decidable_of_iff (isDotted segment = false ∧ isDrive segment = false)
    ⟨fun both => ⟨both.1, both.2⟩, fun straight => ⟨straight.dotless, straight.driveless⟩⟩

theorem straight_margin {segment margin : List Char} (blank : Margin margin) (given : margin ≠ []) :
    Straight (segment ++ margin) := by
  obtain ⟨c, rest, rfl⟩ := List.exists_cons_of_ne_nil given
  have member : c ∈ segment ++ c :: rest := by simp
  have seen : isMargin c = true := blank c List.mem_cons_self
  exact ⟨margin_undotted member seen, margin_undriven member seen⟩

namespace AddressKind
variable {kind : AddressKind}

theorem enter_straight {segment : List Char} (straight : Straight segment) (segments : List (List Char)) :
    kind.enter segments segment = segments ++ [segment] := by
  have single : isDoubleDot segment = false := (Bool.or_eq_false_iff.mp straight.dotless).1
  simp [enter, single, straight.dotless, straight.driveless]

theorem enter_all (segments : List (List Char)) {added : List (List Char)}
    (straight : ∀ segment ∈ added, Straight segment) : added.foldl kind.enter segments = segments ++ added := by
  induction added generalizing segments with
  | nil => exact (List.append_nil segments).symm
  | cons segment rest ih =>
    have first := straight segment List.mem_cons_self
    have others : ∀ other ∈ rest, Straight other := fun other member =>
      straight other (List.mem_cons_of_mem _ member)
    rw [List.foldl_cons, enter_straight first, ih _ others, List.append_assoc, List.singleton_append]

theorem spell_append (first second : List (List Char)) : spell (first ++ second) = spell first ++ spell second :=
  List.flatMap_append

theorem spell_single (segment : List Char) : spell [segment] = '/' :: segment := by
  simp [spell]

theorem spell_length (segments : List (List Char)) (segment : List Char) :
    (spell (segments ++ [segment])).length = (spell segments).length + 1 + segment.length := by
  rw [spell_append, spell_single, List.length_append, List.length_cons]
  omega

theorem enter_short (kind : AddressKind) (segments : List (List Char)) (segment : List Char) :
    (spell (kind.enter segments segment ++ if isDotted segment then [[]] else [])).length ≤
      (spell segments).length + 1 + segment.length := by
  have dropped : (spell segments.dropLast).length ≤ (spell segments).length := by
    rcases List.eq_nil_or_concat segments with rfl | ⟨before, last, rfl⟩
    · exact Nat.le_refl _
    · rw [List.concat_eq_append, List.dropLast_concat, spell_append, List.length_append]
      exact Nat.le_add_right _ _
  unfold enter
  split
  next double =>
    have dotted : isDotted segment = true := by simp [isDotted, double]
    rw [if_pos dotted, spell_length, List.length_nil]
    split <;> omega
  · split
    next dotted =>
      rw [spell_length, List.length_nil]
      omega
    next dotless =>
      rw [List.append_nil]
      split
      next drive =>
        obtain ⟨-, rfl, drive⟩ := drive
        unfold isDrive at drive
        split at drive
        · simp [spell]
        · cases drive
      · exact (spell_length ..).le

/-- Blanks behind a text lengthen its last segment. -/
theorem splitOnP_margin (kind : AddressKind) (text : List Char) {margin : List Char} (blank : Margin margin) :
    ∃ before last, text.splitOnP kind.isSlash = before ++ [last] ∧
      (text ++ margin).splitOnP kind.isSlash = before ++ [last ++ margin] := by
  have whole : margin.splitOnP kind.isSlash = [margin] :=
    List.splitOnP_eq_singleton fun c member => margin_slashless kind (blank c member)
  induction text with
  | nil => exact ⟨[], [], rfl, whole⟩
  | cons c rest ih =>
    obtain ⟨before, last, split, longer⟩ := ih
    rw [List.cons_append, List.splitOnP_cons_eq_if_modifyHead, List.splitOnP_cons_eq_if_modifyHead, split, longer]
    split
    · exact ⟨[] :: before, last, rfl, rfl⟩
    · cases before with
      | nil => exact ⟨[], c :: last, rfl, rfl⟩
      | cons first others => exact ⟨(c :: first) :: others, last, rfl, rfl⟩

/-- A path to put behind another, without its first slash: all of it is kept. -/
structure Addable (kind : AddressKind) (added : List Char) : Prop where
  spelled : spell (added.splitOnP kind.isSlash) = '/' :: added
  straight : ∀ segment ∈ added.splitOnP kind.isSlash, Straight segment
  rootless : ∀ c ∈ added.head?, kind.isSlash c = false
  driveless : isDrive (added.takeWhile (!kind.isSlash ·)) = false

variable {added : List Char}

theorem Addable.segments (addable : kind.Addable added) : kind.segments added = added.splitOnP kind.isSlash :=
  (enter_all [] addable.straight).trans (List.nil_append _)

theorem Addable.segments_append (addable : kind.Addable added) (text : List Char) :
    kind.segments (text ++ '/' :: added) = kind.segments text ++ added.splitOnP kind.isSlash := by
  rw [AddressKind.segments, List.splitOnP_append_cons _ _ (isSlash_slash kind), List.foldl_append]
  exact enter_all _ addable.straight

theorem Addable.closed (addable : kind.Addable added) : kind.isOpenEnded added = false := by
  unfold isOpenEnded
  cases last : (added.splitOnP kind.isSlash).getLast? with
  | none => rfl
  | some segment => exact (addable.straight segment (List.mem_of_getLast? last)).dotless

theorem Addable.closed_append (addable : kind.Addable added) (text : List Char) :
    kind.isOpenEnded (text ++ '/' :: added) = false := by
  have same : kind.isOpenEnded (text ++ '/' :: added) = kind.isOpenEnded added := by
    unfold isOpenEnded
    rw [List.splitOnP_append_cons _ _ (isSlash_slash kind),
      List.getLast?_append_of_ne_nil _ (List.splitOnP_ne_nil _ _)]
  exact same.trans addable.closed

theorem inner_append (text : List Char) (given : text ≠ []) (more : List Char) :
    kind.inner (text ++ more) = kind.inner text ++ more := by
  cases text with
  | nil => exact absurd rfl given
  | cons c rest => simp only [inner, List.cons_append]; split <;> rfl

theorem isOpaque_append (text : List Char) (given : text ≠ []) (more : List Char) :
    kind.isOpaque (text ++ more) = kind.isOpaque text := by
  cases text with
  | nil => exact absurd rfl given
  | cons c rest => rfl

/-- A path behind a text goes on from its directory. -/
theorem Addable.path_append (addable : kind.Addable added) (text : List Char) :
    kind.path (text ++ '/' :: added) = kind.directory text ++ '/' :: added := by
  unfold path directory
  by_cases empty : text = []
  · subst empty
    have rooted : kind.isOpaque ('/' :: added) = false := by simp [isOpaque]
    have within : kind.inner ('/' :: added) = added := by simp [inner, isSlash_slash]
    simp [rooted, within, addable.segments, addable.closed, addable.spelled]
  · rw [isOpaque_append text empty]
    cases rooted : kind.isOpaque text with
    | true => simp
    | false =>
      simp [empty, inner_append text empty, addable.segments_append, addable.closed_append, spell_append,
        addable.spelled]

/-- A path is its directory, but for a slash at its end. -/
theorem path_directory (kind : AddressKind) (text : List Char) :
    kind.path text = kind.directory text ∨ kind.path text = kind.directory text ++ ['/'] := by
  unfold path directory
  by_cases empty : text = []
  · subst empty
    cases kind
    · exact .inr rfl
    · exact .inr rfl
    · exact .inl rfl
  · cases kind.isOpaque text with
    | true => simp
    | false =>
      cases kind.isOpenEnded (kind.inner text) with
      | true => simp [empty, spell_append, spell_single]
      | false => simp [empty]

/-- Blanks behind a text become part of its directory. -/
theorem path_margin (kind : AddressKind) (text : List Char) {margin : List Char} (blank : Margin margin)
    (given : margin ≠ []) :
    (kind.path text).length < (kind.directory (text ++ margin)).length := by
  have longer : 0 < margin.length := List.length_pos_iff.mpr given
  have rooted : kind.isOpaque (text ++ margin) = kind.isOpaque text := by
    cases text with
    | cons c rest => rfl
    | nil =>
      obtain ⟨c, rest, rfl⟩ := List.exists_cons_of_ne_nil given
      have slash : c ≠ '/' := margin_ne (blank c List.mem_cons_self) rfl
      have first : (some c != some '/') = true := bne_iff_ne.mpr fun same => slash (Option.some.inj same)
      exact congrArg (kind == .other && ·) first
  have within : kind.inner (text ++ margin) = kind.inner text ++ margin := by
    cases text with
    | cons c rest => exact inner_append _ (List.cons_ne_nil c rest) _
    | nil =>
      obtain ⟨c, rest, rfl⟩ := List.exists_cons_of_ne_nil given
      simp [inner, margin_slashless kind (blank c List.mem_cons_self)]
  have filled : text ++ margin ≠ [] := fun empty => given (List.append_eq_nil_iff.mp empty).2
  unfold path directory
  rw [rooted, within]
  cases kind.isOpaque text with
  | true =>
    simp
    omega
  | false =>
    obtain ⟨before, last, split, lengthened⟩ := splitOnP_margin kind (kind.inner text) blank
    have ended : kind.isOpenEnded (kind.inner text) = isDotted last := by simp [isOpenEnded, split]
    have short := enter_short kind (before.foldl kind.enter []) last
    simp only [segments, split, lengthened, List.foldl_append, List.foldl_cons, List.foldl_nil, ended,
      enter_straight (straight_margin blank given), filled, false_or, Bool.false_eq_true, if_false, spell_append,
      spell_single, List.length_append, List.length_cons] at short ⊢
    omega

theorem cutAuthority_slash (text added : List Char) :
    kind.cutAuthority (text ++ '/' :: added) =
      ((kind.cutAuthority text).1, (kind.cutAuthority text).2 ++ '/' :: added) := by
  have stop : (!kind.isSlash '/') = false := congrArg not (isSlash_slash kind)
  unfold cutAuthority
  rw [takeWhile_stop stop, dropWhile_stop stop]

/-- Blanks behind a text leave its authority alone, or are a part of it. -/
theorem cutAuthority_margin (kind : AddressKind) (text : List Char) {margin : List Char} (blank : Margin margin) :
    kind.cutAuthority (text ++ margin) = ((kind.cutAuthority text).1, (kind.cutAuthority text).2 ++ margin) ∨
      (kind.cutAuthority text).1 = some text ∧ (kind.cutAuthority (text ++ margin)).1 = some (text ++ margin) := by
  have passed (c : Char) (member : c ∈ margin) : (!kind.isSlash c) = true :=
    congrArg not (margin_slashless kind (blank c member))
  unfold cutAuthority
  by_cases whole : ∀ c ∈ text, (!kind.isSlash c) = true
  · have longer : ∀ c ∈ text ++ margin, (!kind.isSlash c) = true := fun c member =>
      (List.mem_append.mp member).elim (whole c) (passed c)
    exact .inr ⟨congrArg some (List.takeWhile_eq_self_iff.mpr whole),
      congrArg some (List.takeWhile_eq_self_iff.mpr longer)⟩
  · left
    push Not at whole
    obtain ⟨c, member, slash⟩ := whole
    obtain ⟨before, after, rfl⟩ := List.append_of_mem member
    have stop : (!kind.isSlash c) = false := by simpa using slash
    rw [List.append_assoc, List.cons_append, takeWhile_stop stop, takeWhile_stop stop, dropWhile_stop stop,
      dropWhile_stop stop, List.append_assoc, List.cons_append]

/-- What is put behind such a text is read as an authority. -/
def TakesHost (kind : AddressKind) (text : List Char) : Prop :=
  if kind = .special then ∀ c ∈ text, kind.isSlash c = true else ∃ c, text = [c] ∧ kind.isSlash c = true

theorem afterSlashes?_slash {text : List Char} (unhosted : ¬ ∃ c, text = [c] ∧ kind.isSlash c = true)
    (rootless : ∀ c ∈ added.head?, kind.isSlash c = false) :
    kind.afterSlashes? (text ++ '/' :: added) = (kind.afterSlashes? text).map (· ++ '/' :: added) := by
  match text with
  | [] =>
    cases added with
    | nil => rfl
    | cons c rest => simp [afterSlashes?, rootless c rfl]
  | [c] =>
    have plain : ¬ kind.isSlash c = true := fun slash => unhosted ⟨c, rfl, slash⟩
    simp [afterSlashes?, plain]
  | first :: second :: rest =>
    simp only [afterSlashes?, List.cons_append]
    split <;> rfl

theorem afterSlashes?_margin (text : List Char) {margin : List Char} (blank : Margin margin) :
    kind.afterSlashes? (text ++ margin) = (kind.afterSlashes? text).map (· ++ margin) := by
  have plain (c : Char) (member : c ∈ margin) : kind.isSlash c = false := margin_slashless kind (blank c member)
  match text, margin with
  | [], [] => rfl
  | [], [c] => rfl
  | [], c :: d :: rest => simp [afterSlashes?, plain c (by simp)]
  | [c], [] => rfl
  | [c], d :: rest => simp [afterSlashes?, plain d (by simp)]
  | first :: second :: rest, margin =>
    simp only [afterSlashes?, List.cons_append]
    split <;> rfl

theorem front_slash {text : List Char} (hosted : ¬ kind.TakesHost text)
    (rootless : ∀ c ∈ added.head?, kind.isSlash c = false) :
    kind.front (text ++ '/' :: added) = ((kind.front text).1, (kind.front text).2 ++ '/' :: added) := by
  unfold front TakesHost at *
  split
  next special =>
    rw [if_pos special] at hosted
    have inside : text.dropWhile kind.isSlash ≠ [] := fun none => hosted (List.dropWhile_eq_nil_iff.mp none)
    rw [List.dropWhile_append, if_neg (by simpa using inside)]
    exact cutAuthority_slash ..
  next plain =>
    rw [if_neg plain] at hosted
    rw [afterSlashes?_slash hosted rootless]
    cases kind.afterSlashes? text with
    | none => rfl
    | some rest =>
      simp only [Option.map_some, cutAuthority_slash]
      split <;> rfl

/-- Blanks that become no part of the authority become a part of the path. -/
theorem front_margin {text margin : List Char} (blank : Margin margin) (given : margin ≠ [])
    (same : (kind.front (text ++ margin)).1 = (kind.front text).1) :
    (kind.front (text ++ margin)).2 = (kind.front text).2 ++ margin := by
  have longer (text : List Char) : some (text ++ margin) ≠ some text := by simpa using given
  by_cases special : kind = .special
  · have moved : (text ++ margin).dropWhile kind.isSlash = text.dropWhile kind.isSlash ++ margin := by
      obtain ⟨c, rest, rfl⟩ := List.exists_cons_of_ne_nil given
      exact dropWhile_stop (margin_slashless kind (blank c List.mem_cons_self)) ..
    rw [front, front, if_pos special, if_pos special, moved] at same ⊢
    rcases cutAuthority_margin kind (text.dropWhile kind.isSlash) blank with kept | ⟨before, after⟩
    · rw [kept]
    · exact absurd (after.symm.trans (same.trans before)) (longer _)
  · rw [front, front, if_neg special, if_neg special, afterSlashes?_margin text blank] at same ⊢
    cases slashed : kind.afterSlashes? text with
    | none => rfl
    | some rest =>
      simp only [slashed, Option.map_some] at same ⊢
      rcases cutAuthority_margin kind rest blank with kept | ⟨before, after⟩
      · rw [kept]
        split <;> rfl
      · have undriven : isDrive (rest ++ margin) = false := (straight_margin blank given).driveless
        simp only [after, Option.any_some, undriven, Bool.false_eq_true, and_false, if_false] at same
        split at same
        · simp [given] at same
        · exact absurd (same.trans before) (longer _)

theorem addable_nil : kind.Addable [] where
  spelled := rfl
  straight := by
    intro segment member
    cases List.mem_singleton.mp member
    exact ⟨by decide, rfl⟩
  rootless := nofun
  driveless := rfl

/-- Where an added path would be read as an authority, it is one. -/
theorem takesHost_authority {text : List Char} (hosting : kind.TakesHost text) (slashed : kind ≠ .special)
    (addable : kind.Addable added) :
    (kind.front (text ++ '/' :: added)).1 = some (added.takeWhile (!kind.isSlash ·)) := by
  rw [TakesHost, if_neg slashed] at hosting
  obtain ⟨c, rfl, slash⟩ := hosting
  have behind : kind.afterSlashes? (c :: '/' :: added) = some added := by
    simp [afterSlashes?, slash, isSlash_slash]
  simp [front, slashed, behind, cutAuthority, addable.driveless]

theorem takesHost_directory {text : List Char} (hosting : kind.TakesHost text) (slashed : kind ≠ .special) :
    (kind.front text).1.getD [] = [] ∧ kind.directory (kind.front text).2 = ['/'] := by
  rw [TakesHost, if_neg slashed] at hosting
  obtain ⟨c, rfl, slash⟩ := hosting
  have rooted : kind.isOpaque [c] = false := by
    cases kind with
    | other => simpa [isOpaque, isSlash] using slash
    | _ => rfl
  have single : kind.segments [] = [[]] := addable_nil.segments
  constructor
  · simp only [front, slashed, if_false, afterSlashes?]
    split <;> rfl
  · simp [front, slashed, afterSlashes?, directory, rooted, inner, slash, single, spell]

def accepts : AddressKind → Option (List Char) → Bool
  | .special, authority => isAuthority true (authority.getD [])
  | .file, authority =>
    (authority.getD []).isEmpty || isDrive (authority.getD []) || Host.isHost true (authority.getD [])
  | .other, authority => authority.all (isAuthority false)

theorem takesHost_refused {text : List Char} (hosting : TakesHost .special text) :
    accepts .special (front .special text).1 = false := by
  have slashes : ∀ c ∈ text, isSlash .special c = true := hosting
  simp only [front, if_true, List.dropWhile_eq_nil_iff.mpr slashes]
  decide

theorem takeWhile_uncut (kind : AddressKind) {text : List Char} (uncut : ∀ c ∈ text, isCut c = false) :
    text.takeWhile (!endsAuthority (kind != .other) ·) = text.takeWhile (!kind.isSlash ·) := by
  induction text with
  | nil => rfl
  | cons c rest ih =>
    have whole : isCut c = false := uncut c List.mem_cons_self
    have same : endsAuthority (kind != .other) c = kind.isSlash c := by
      have parts : endsAuthority (kind != .other) c = (kind.isSlash c || isCut c) := by
        simp only [endsAuthority, isSlash, isCut]
        cases c == '/' <;> cases c == '?' <;> cases c == '#' <;> cases kind != .other <;> simp
      rw [parts, whole, Bool.or_false]
    rw [List.takeWhile_cons, List.takeWhile_cons, same, ih fun d member => uncut d (List.mem_cons_of_mem _ member)]

theorem file_uncut {rest : List Char} (uncut : ∀ c ∈ rest, isCut c = false) :
    isFileRest rest = accepts .file (front .file rest).1 := by
  match rest with
  | [] => rfl
  | [c] => rfl
  | first :: second :: rest =>
    have host : rest.takeWhile (!endsAuthority true ·) = rest.takeWhile (!isSlash .file ·) :=
      takeWhile_uncut .file fun c member => uncut c (by simp [member])
    have slashes : ([first, second].all fun c => c == '/' || c == '\\') =
        (isSlash .file first && isSlash .file second) := congrArg (isSlash .file first && ·) (Bool.and_true _)
    simp only [isFileRest, List.take_succ_cons, List.take_zero, List.length_cons, List.length_nil,
      List.drop_succ_cons, List.drop_zero, decide_true, Bool.true_and, front, afterSlashes?, slashes, host,
      reduceCtorEq, if_false]
    cases isSlash .file first && isSlash .file second with
    | false => rfl
    | true =>
      simp only [cutAuthority, Option.any_some, if_true, true_and]
      split
      next driven => simp [accepts, driven]
      next undriven => rfl

theorem other_uncut {rest : List Char} (uncut : ∀ c ∈ rest, isCut c = false) :
    isOtherRest rest = accepts .other (front .other rest).1 := by
  unfold isOtherRest
  split
  next inner =>
    have inside : ∀ c ∈ inner, isCut c = false := fun c member => uncut c (by simp [member])
    exact congrArg (isAuthority false) (takeWhile_uncut .other inside)
  next slashless =>
    have none : afterSlashes? .other rest = none := by
      unfold afterSlashes?
      split
      next first second inner =>
        refine if_neg fun slashes => ?_
        obtain ⟨rfl, rfl⟩ : first = '/' ∧ second = '/' := by simpa [isSlash] using slashes
        exact slashless inner rfl
      · rfl
    simp [front, none, accepts]

theorem special_uncut {rest : List Char} (uncut : ∀ c ∈ rest, isCut c = false) :
    isSpecialRest rest = accepts .special (front .special rest).1 := by
  have inside : ∀ c ∈ rest.dropWhile (isSlash .special), isCut c = false := fun c member =>
    uncut c ((List.dropWhile_sublist _).subset member)
  exact congrArg (isAuthority true) (takeWhile_uncut .special inside)

/-- Without a query or a fragment it is the authority alone that can be refused. -/
theorem valid_uncut {text scheme : String} {rest : List Char}
    (read : scheme? (cleaned text.toList) = some (scheme, rest)) (uncut : ∀ c ∈ rest, isCut c = false) :
    isValid text = (ofScheme scheme).accepts ((ofScheme scheme).front rest).1 := by
  unfold isValid ofScheme
  rw [read]
  simp only
  split
  · exact file_uncut uncut
  · split
    · exact special_uncut uncut
    · exact other_uncut uncut

end AddressKind

end TenantAccess.Proofs
