import TenantAccess.Proofs.ReadAddresses
import TenantAccess.Verifier.Setup

/-! Addresses made by putting a path behind the text of another. What the text ends in decides whether
the path comes to stand where it should: behind the path of that other address, with one slash between. -/

namespace TenantAccess.Proofs
open Url AddressKind

section
variable {kind : AddressKind} {added : List Char}

theorem unended_iff (text : List Char) : text.rdropWhile (· == '/') = text ↔ text.getLast? ≠ some '/' := by
  rw [List.rdropWhile_eq_self_iff]
  rcases List.eq_nil_or_concat text with rfl | ⟨before, last, rfl⟩
  · simp
  · simp

variable {text whole : List Char}

/-- An added path that becomes an authority is none that the address had. -/
theorem takesHost_apart (hosting : kind.TakesHost text) (joined : whole = text ∨ whole = text ++ ['/'])
    (accepted : kind.accepts (kind.front whole).1 = true) (addable : kind.Addable added) (given : added ≠ []) :
    (kind.front (text ++ '/' :: added)).1 ≠ (kind.front whole).1 ∧
      kind.directory (kind.front text).2 = ['/'] := by
  have slashed : kind ≠ .special := by
    rintro rfl
    have still : TakesHost .special whole := by
      rcases joined with rfl | rfl
      · exact hosting
      · intro c member
        rcases List.mem_append.mp member with before | last
        · exact hosting c before
        · exact List.mem_singleton.mp last ▸ isSlash_slash .special
    rw [takesHost_refused still] at accepted
    cases accepted
  obtain ⟨hostless, ended⟩ := takesHost_directory hosting slashed
  have whole_hostless : (kind.front whole).1.getD [] = [] := by
    rcases joined with rfl | rfl
    · exact hostless
    · rw [takesHost_authority hosting slashed addable_nil]
      rfl
  refine ⟨fun same => ?_, ended⟩
  rw [← same, takesHost_authority hosting slashed addable] at whole_hostless
  obtain ⟨c, rest, rfl⟩ := List.exists_cons_of_ne_nil given
  simp [addable.rootless c rfl] at whole_hostless

/-- A slash at the end makes no difference to the authority, nor to the path without its last slashes. -/
theorem slash_trimmed (unhosted : ¬ kind.TakesHost text) (joined : whole = text ∨ whole = text ++ ['/']) :
    (kind.front whole).1 = (kind.front text).1 ∧
      (kind.path (kind.front whole).2).rdropWhile (· == '/') =
        (kind.directory (kind.front text).2).rdropWhile (· == '/') := by
  rcases joined with rfl | rfl
  · refine ⟨rfl, ?_⟩
    rcases path_directory kind (kind.front whole).2 with same | slash
    · rw [same]
    · rw [slash, List.rdropWhile_concat_pos _ _ _ rfl]
  · rw [front_slash unhosted addable_nil.rootless, addable_nil.path_append]
    exact ⟨rfl, List.rdropWhile_concat_pos _ _ _ rfl⟩

theorem joined_iff (joined : whole = text ∨ whole = text ++ ['/'])
    (accepted : kind.accepts (kind.front whole).1 = true) (addable : kind.Addable added) (given : added ≠ []) :
    ((kind.front (text ++ '/' :: added)).1 = (kind.front whole).1 ∧
      kind.path (kind.front (text ++ '/' :: added)).2 =
        (kind.path (kind.front whole).2).rdropWhile (· == '/') ++ '/' :: added) ↔
    (kind.directory (kind.front text).2).getLast? ≠ some '/' := by
  by_cases hosting : kind.TakesHost text
  · obtain ⟨apart, ended⟩ := takesHost_apart hosting joined accepted addable given
    exact iff_of_false (fun both => apart both.1) (by simp [ended])
  · obtain ⟨authority, trimmed⟩ := slash_trimmed hosting joined
    rw [front_slash hosting addable.rootless, authority, trimmed, addable.path_append, List.append_cancel_right_eq,
      ← unended_iff]
    exact ⟨fun both => both.2.symm, fun same => ⟨rfl, same.symm⟩⟩

/-- Blanks behind an address do not stay out of what it is joined to. -/
theorem blanks_joined {margin : List Char} (blank : Margin margin) (spaced : margin ≠ [])
    (addable : kind.Addable added) :
    ¬ ((kind.front (text ++ margin ++ '/' :: added)).1 = (kind.front text).1 ∧
      kind.path (kind.front (text ++ margin ++ '/' :: added)).2 =
        (kind.path (kind.front text).2).rdropWhile (· == '/') ++ '/' :: added) := by
  have unhosted : ¬ kind.TakesHost (text ++ margin) := by
    obtain ⟨c, rest, rfl⟩ := List.exists_cons_of_ne_nil spaced
    have plain : kind.isSlash c = false := margin_slashless kind (blank c List.mem_cons_self)
    intro hosting
    unfold TakesHost at hosting
    split at hosting
    · rw [hosting c (by simp)] at plain
      cases plain
    · obtain ⟨d, same, slash⟩ := hosting
      have member : c ∈ [d] := same ▸ (by simp : c ∈ text ++ c :: rest)
      cases List.mem_singleton.mp member
      rw [slash] at plain
      cases plain
  rintro ⟨authority, path⟩
  rw [front_slash unhosted addable.rootless] at authority path
  rw [addable.path_append, List.append_cancel_right_eq, front_margin blank spaced authority] at path
  have longer := path_margin kind (kind.front text).2 blank spaced
  have shorter := List.IsPrefix.length_le ( List.rdropWhile_prefix (· == '/') (kind.path (kind.front text).2))
  rw [path] at longer
  omega

end

/-- A text as it is read when more comes behind it, so that nothing is left out at its end. -/
def begun (text : List Char) : List Char :=
  (text.dropWhile isMargin).filter fun c => c != '\t' && c != '\n' && c != '\r'

section
variable {text added : List Char}

theorem dropWhile_first {p : Char → Bool} {c : Char} {rest : List Char} (parted : text.dropWhile p = c :: rest) :
    p c = false := by
  have first := List.head?_dropWhile_not p text
  rw [parted] at first
  simpa using first

theorem cleaned_behind (text : List Char) (solid : ∀ c ∈ added, isMargin c = false) (given : added ≠ []) :
    cleaned (text ++ added) = begun text ++ added := by
  have started : (text ++ added).dropWhile isMargin = text.dropWhile isMargin ++ added := by
    obtain ⟨c, rest, rfl⟩ := List.exists_cons_of_ne_nil given
    exact dropWhile_stop (solid c List.mem_cons_self) ..
  have ended : (text.dropWhile isMargin ++ added).rdropWhile isMargin = text.dropWhile isMargin ++ added := by
    refine List.rdropWhile_eq_self_iff.mpr fun _ => ?_
    rw [List.getLast_append_of_ne_nil _ given]
    exact Bool.eq_false_iff.mp (solid _ (List.getLast_mem given))
  have kept : (added.filter fun c => c != '\t' && c != '\n' && c != '\r') = added := by
    refine List.filter_eq_self.mpr fun c member => ?_
    have seen (other : Char) (margin : isMargin other = true) : c ≠ other := fun same =>
      margin_ne margin (solid c member) same.symm
    simp [seen '\t' rfl, seen '\n' rfl, seen '\r' rfl]
  change (((text ++ added).dropWhile isMargin).rdropWhile isMargin).filter _ = _
  rw [started, ended, List.filter_append, kept]
  rfl

def Ended (text : List Char) : Prop := ∀ c ∈ text.rtakeWhile isMargin, c = '\t' ∨ c = '\n' ∨ c = '\r'

theorem begun_cleaned (read : cleaned text ≠ []) :
    ∃ margin, begun text = cleaned text ++ margin ∧ Margin margin ∧ (margin = [] ↔ Ended text) := by
  have inside : text.dropWhile isMargin ≠ [] := by
    intro none
    rw [cleaned, none] at read
    exact read rfl
  have same : (text.dropWhile isMargin).rtakeWhile isMargin = text.rtakeWhile isMargin := by
    obtain ⟨c, rest, parted⟩ := List.exists_cons_of_ne_nil inside
    have stop : isMargin c = false := dropWhile_first parted
    have whole : text = text.takeWhile isMargin ++ c :: rest := by
      rw [← parted, List.takeWhile_append_dropWhile]
    rw [parted]
    conv_rhs => rw [whole]
    simp only [List.rtakeWhile, List.reverse_append, List.reverse_cons, List.append_assoc, List.singleton_append,
      takeWhile_stop stop]
  refine ⟨(text.rtakeWhile isMargin).filter fun c => c != '\t' && c != '\n' && c != '\r', ?_, ?_, ?_⟩
  · rw [← same]
    conv_lhs => rw [begun, ← List.rdropWhile_append_rtakeWhile (p := isMargin) (l := text.dropWhile isMargin),
      List.filter_append]
    rfl
  · intro c member
    exact List.mem_rtakeWhile_imp (List.mem_filter.mp member).1
  · rw [List.filter_eq_nil_iff]
    refine forall₂_congr fun c _ => ?_
    simp only [Bool.and_eq_true, bne_iff_ne, not_and_or, not_not, or_assoc]

theorem schemed {scheme : String} {rest : List Char} (read : scheme? text = some (scheme, rest)) :
    ∃ name, text = name ++ ':' :: rest ∧ ∀ c ∈ name, isSchemeCharacter c = true := by
  unfold scheme? at read
  simp only at read
  split at read
  next first others rest named behind =>
    split at read
    · cases read
      refine ⟨text.takeWhile isSchemeCharacter, ?_, fun c member => List.mem_takeWhile_imp member⟩
      rw [← behind, List.takeWhile_append_dropWhile]
    · cases read
  · cases read

theorem schemed_behind {scheme : String} {rest : List Char} (read : scheme? text = some (scheme, rest))
    (more : List Char) : scheme? (text ++ more) = some (scheme, rest ++ more) := by
  obtain ⟨name, rfl, named⟩ := schemed read
  have stop : isSchemeCharacter ':' = false := by decide
  have all : name.dropWhile isSchemeCharacter = [] := List.dropWhile_eq_nil_iff.mpr named
  rw [List.append_assoc, List.cons_append]
  unfold scheme? at read ⊢
  simp only [takeWhile_stop stop, dropWhile_stop stop, all, List.nil_append] at read ⊢
  split at read
  next first others inner taken same =>
    cases same
    split at read
    · cases read
      simp_all
    · cases read
  · cases read

theorem schemed_slash (text added : List Char) :
    scheme? (text ++ '/' :: added) = (scheme? text).map fun (scheme, rest) => (scheme, rest ++ '/' :: added) := by
  have stop : isSchemeCharacter '/' = false := by decide
  unfold scheme?
  simp only [takeWhile_stop stop, dropWhile_stop stop]
  cases text.dropWhile isSchemeCharacter with
  | nil => cases text.takeWhile isSchemeCharacter <;> simp
  | cons c rest =>
    cases text.takeWhile isSchemeCharacter with
    | nil => rfl
    | cons first others =>
      by_cases colon : c = ':'
      · subst colon
        simp only [List.cons_append]
        split <;> rfl
      · simp [colon]

end

def directoryOf (text : List Char) : List Char :=
  match scheme? (begun text) with
  | some (scheme, rest) => (ofScheme scheme).directory ((ofScheme scheme).front rest).2
  | none => []

/-- The text of an address that can have a path put behind it once a slash at its end is cut off: it has
no query or fragment, nothing is left out at its end, and its path does not end in a slash then. -/
structure Extendable (url : String) : Prop where
  uncut : ∀ c ∈ url.toList, isCut c = false
  ended : Ended url.toList
  single : (directoryOf (ProviderConfig.baseUrl url).toList).getLast? ≠ some '/'

structure Appendix (path added : List Char) : Prop where
  rooted : path = '/' :: added
  filled : added ≠ []
  solid : ∀ c ∈ path, isMargin c = false ∧ isCut c = false
  addable : ∀ kind : AddressKind, kind.Addable added

theorem baseUrl_toList (url : String) :
    url.toList = (ProviderConfig.baseUrl url).toList ∧ url.toList.getLast? ≠ some '/' ∨
      url.toList = (ProviderConfig.baseUrl url).toList ++ ['/'] := by
  unfold ProviderConfig.baseUrl
  split
  next rest turned =>
    right
    rw [String.toList_ofList, ← List.reverse_reverse url.toList, turned, List.reverse_cons]
  next other =>
    refine .inl ⟨rfl, fun last => ?_⟩
    obtain ⟨before, whole⟩ := List.getLast?_eq_some_iff.mp last
    refine other before.reverse ?_
    rw [whole, List.reverse_append, List.reverse_singleton, List.singleton_append]

/-- What follows the scheme of an address, beside what a path put behind its text comes to follow. -/
inductive Joined (url : String) (rest text : List Char) : Prop where
  | ended (ended : Ended url.toList) (same : rest = text ∨ rest = text ++ ['/'])
  | blank {margin : List Char} (loose : ¬ Ended url.toList) (spaced : margin ≠ []) (blank : Margin margin)
      (longer : text = rest ++ margin)

theorem base_read {url scheme : String} {rest : List Char}
    (read : scheme? (cleaned url.toList) = some (scheme, rest)) :
    ∃ text, scheme? (begun (ProviderConfig.baseUrl url).toList) = some (scheme, text) ∧ Joined url rest text := by
  rcases baseUrl_toList url with ⟨same, -⟩ | slashed
  · have given : cleaned url.toList ≠ [] := by
      intro none
      rw [none] at read
      cases read
    obtain ⟨margin, longer, blank, ended⟩ := begun_cleaned given
    have based : scheme? (begun (ProviderConfig.baseUrl url).toList) = some (scheme, rest ++ margin) := by
      rw [← same, longer]
      exact schemed_behind read margin
    refine ⟨rest ++ margin, based, ?_⟩
    by_cases empty : margin = []
    · exact .ended (ended.mp empty) (.inl (by simp [empty]))
    · exact .blank (fun all => empty (ended.mpr all)) empty blank rfl
  · have solid : ∀ c ∈ ['/'], isMargin c = false := List.forall_mem_singleton.mpr rfl
    rw [slashed, cleaned_behind _ solid (List.cons_ne_nil _ _), schemed_slash] at read
    obtain ⟨⟨_, text⟩, found, same⟩ := Option.map_eq_some_iff.mp read
    cases same
    have ended : Ended url.toList := by
      intro c member
      rw [slashed, List.rtakeWhile_concat_neg _ _ _ (by decide)] at member
      cases member
    exact ⟨text, found, .ended ended (.inr rfl)⟩

theorem Joined.uncut {url : String} {rest text : List Char} (joined : Joined url rest text)
    (uncut : ∀ c ∈ text, isCut c = false) : ∀ c ∈ rest, isCut c = false := by
  intro c member
  cases joined with
  | ended _ same =>
    rcases same with rfl | rfl
    · exact uncut c member
    · rcases List.mem_append.mp member with before | last
      · exact uncut c before
      · cases List.mem_singleton.mp last
        rfl
  | blank _ _ _ longer => exact uncut c (longer ▸ List.mem_append_left _ member)

section
variable {c : Char}

theorem cut_ne (cut : isCut c = true) (other : Char) (plain : isCut other = false) : c ≠ other := by
  rintro rfl
  rw [cut] at plain
  cases plain

theorem begun_cut (cut : isCut c = true) (text : List Char) : c ∈ begun text ↔ c ∈ text := by
  constructor
  · intro member
    exact (List.dropWhile_sublist _).subset (List.mem_filter.mp member).1
  · intro member
    rw [← @List.takeWhile_append_dropWhile _ isMargin text] at member
    have inside : c ∈ text.dropWhile isMargin := by
      refine (List.mem_append.mp member).resolve_left fun before => ?_
      rw [margin_uncut (List.mem_takeWhile_imp before)] at cut
      cases cut
    refine List.mem_filter.mpr ⟨inside, ?_⟩
    simp [cut_ne cut '\t' rfl, cut_ne cut '\n' rfl, cut_ne cut '\r' rfl]

theorem schemed_cut {scheme : String} {text rest : List Char} (read : scheme? text = some (scheme, rest))
    (cut : isCut c = true) : c ∈ text ↔ c ∈ rest := by
  obtain ⟨name, rfl, named⟩ := schemed read
  have apart : c ∉ name := by
    intro member
    have marks : c = '?' ∨ c = '#' := by simpa [isCut] using cut
    rcases marks with rfl | rfl
    · exact absurd (named _ member) (by decide)
    · exact absurd (named _ member) (by decide)
  simp [apart, cut_ne cut ':' rfl]

end

theorem uncut_absent (text : List Char) : (∀ c ∈ text, isCut c = false) ↔ ∀ c, isCut c = true → c ∉ text := by
  constructor
  · intro uncut c cut member
    rw [uncut c member] at cut
    cases cut
  · intro absent c member
    exact Bool.eq_false_iff.mpr fun cut => absent c cut member

/-- The marks of a query and of a fragment are dropped nowhere on the way. -/
theorem uncut_iff {url scheme : String} {text : List Char}
    (read : scheme? (begun (ProviderConfig.baseUrl url).toList) = some (scheme, text)) :
    (∀ c ∈ url.toList, isCut c = false) ↔ ∀ c ∈ text, isCut c = false := by
  have kept {c : Char} (cut : isCut c = true) : c ∈ url.toList ↔ c ∈ text := by
    rw [← schemed_cut read cut, begun_cut cut]
    rcases baseUrl_toList url with ⟨same, -⟩ | slashed
    · rw [same]
    · simp [slashed, cut_ne cut '/' rfl]
  rw [uncut_absent, uncut_absent]
  exact forall₂_congr fun c cut => not_congr (kept cut)

theorem ofText?_eq {text scheme : String} {rest : List Char}
    (read : scheme? (cleaned text.toList) = some (scheme, rest)) (address : Address) :
    Address.ofText? text = some address ↔ isValid text = true ∧ .ofRest scheme rest = address := by
  simp [Address.ofText?, read]

theorem ofText?_read {text : String} {address : Address} (read : Address.ofText? text = some address) :
    isValid text = true ∧
      ∃ scheme rest, scheme? (cleaned text.toList) = some (scheme, rest) ∧ address = .ofRest scheme rest := by
  unfold Address.ofText? at read
  split at read
  next valid =>
    obtain ⟨⟨scheme, rest⟩, named, rfl⟩ := Option.map_eq_some_iff.mp read
    exact ⟨valid, scheme, rest, named, rfl⟩
  · cases read

theorem ofText?_valid {url : String} (valid : isValid url = true) : ∃ address, Address.ofText? url = some address := by
  unfold isValid at valid
  split at valid
  · cases valid
  next scheme rest read =>
    refine ⟨.ofRest scheme rest, (ofText?_eq read _).mpr ⟨?_, rfl⟩⟩
    rw [isValid, read]
    exact valid

theorem ofRest_uncut (scheme : String) {rest : List Char} (uncut : ∀ c ∈ rest, isCut c = false) :
    Address.ofRest scheme rest = ⟨scheme, ((ofScheme scheme).front rest).1,
      (ofScheme scheme).path ((ofScheme scheme).front rest).2, none, none⟩ := by
  have whole : rest.takeWhile (!isCut ·) = rest :=
    List.takeWhile_eq_self_iff.mpr fun c member => congrArg not (uncut c member)
  have queryless : rest.dropWhile (!isCut ·) = [] :=
    List.dropWhile_eq_nil_iff.mpr fun c member => congrArg not (uncut c member)
  have fragmentless : rest.dropWhile (· != '#') = [] := by
    refine List.dropWhile_eq_nil_iff.mpr fun c member => ?_
    have plain := uncut c member
    simp only [isCut, Bool.or_eq_false_iff] at plain
    exact congrArg not plain.2
  simp [Address.ofRest, whole, queryless, fragmentless]

theorem uncut_ofRest {scheme : String} {rest : List Char} (queryless : (Address.ofRest scheme rest).query = none)
    (fragmentless : (Address.ofRest scheme rest).fragment = none) : ∀ c ∈ rest, isCut c = false := by
  have unmarked : ∀ c ∈ rest, (c != '#') = true := by
    apply List.dropWhile_eq_nil_iff.mp
    cases behind : rest.dropWhile (· != '#') with
    | nil => rfl
    | cons c tail => simp [Address.ofRest, behind] at fragmentless
  have whole : ∀ c ∈ rest, (!isCut c) = true := by
    apply List.dropWhile_eq_nil_iff.mp
    cases behind : rest.dropWhile (!isCut ·) with
    | nil => rfl
    | cons c tail =>
      have cut : isCut c = true := by simpa using dropWhile_first behind
      have marks : c = '?' ∨ c = '#' := by simpa [isCut] using cut
      rcases marks with rfl | rfl
      · simp [Address.ofRest, behind] at queryless
      · have member : '#' ∈ rest := (List.dropWhile_sublist _).subset (behind ▸ List.mem_cons_self)
        exact absurd (unmarked _ member) (by decide)
  intro c member
  simpa using whole c member

/-- Without queries and fragments it is the authority and the path that matter. -/
theorem ofRest_extended {scheme : String} {rest text path : List Char} (plain : ∀ c ∈ rest, isCut c = false)
    (uncut : ∀ c ∈ text ++ path, isCut c = false) :
    .ofRest scheme (text ++ path) = (Address.ofRest scheme rest).extended path ↔
      ((ofScheme scheme).front (text ++ path)).1 = ((ofScheme scheme).front rest).1 ∧
        (ofScheme scheme).path ((ofScheme scheme).front (text ++ path)).2 =
          ((ofScheme scheme).path ((ofScheme scheme).front rest).2).rdropWhile (· == '/') ++ path := by
  rw [ofRest_uncut _ plain, ofRest_uncut _ uncut]
  simp only [Address.extended, Address.mk.injEq, and_true, true_and]

/-- Putting a path behind the text of an address gives the address with the path behind its own
exactly when its text can have a path put behind it. -/
theorem extended_iff {url : String} {address : Address} (read : Address.ofText? url = some address)
    {path : String} {added : List Char} (appendix : Appendix path.toList added) :
    Address.ofText? (ProviderConfig.baseUrl url ++ path) = some (address.extended path.toList) ↔ Extendable url := by
  obtain ⟨valid, scheme, rest, named, rfl⟩ := ofText?_read read
  obtain ⟨text, based, joined⟩ := base_read named
  have requested : scheme? (cleaned (ProviderConfig.baseUrl url ++ path).toList) =
      some (scheme, text ++ path.toList) := by
    have solid : ∀ c ∈ path.toList, isMargin c = false := fun c member => (appendix.solid c member).1
    rw [String.toList_append, cleaned_behind _ solid (by simp [appendix.rooted])]
    exact schemed_behind based _
  have cutless (uncut : ∀ c ∈ text, isCut c = false) (c : Char) (member : c ∈ text ++ path.toList) :
      isCut c = false :=
    (List.mem_append.mp member).elim (uncut c) fun behind => (appendix.solid c behind).2
  have directory : directoryOf (ProviderConfig.baseUrl url).toList =
      (ofScheme scheme).directory ((ofScheme scheme).front text).2 := by
    simp only [directoryOf, based]
  have accepted (uncut : ∀ c ∈ text, isCut c = false) :
      (ofScheme scheme).accepts ((ofScheme scheme).front rest).1 = true :=
    (valid_uncut named (joined.uncut uncut)).symm.trans valid
  rw [ofText?_eq requested]
  constructor
  · rintro ⟨-, same⟩
    have uncut : ∀ c ∈ text, isCut c = false := by
      have all := uncut_ofRest (congrArg Address.query same) (congrArg Address.fragment same)
      exact fun c member => all c (List.mem_append_left _ member)
    rw [ofRest_extended (joined.uncut uncut) (cutless uncut), appendix.rooted] at same
    cases joined with
    | ended ended joined =>
      have single := (joined_iff joined (accepted uncut) (appendix.addable _) appendix.filled).mp same
      exact ⟨(uncut_iff based).mpr uncut, ended, directory ▸ single⟩
    | blank _ spaced blank longer =>
      rw [longer] at same
      exact absurd same (blanks_joined blank spaced (appendix.addable _))
  · intro extendable
    have uncut := (uncut_iff based).mp extendable.uncut
    cases joined with
    | ended ended same =>
      have kept := (joined_iff same (accepted uncut) (appendix.addable _) appendix.filled).mpr
        (directory ▸ extendable.single)
      have plain := Joined.uncut (.ended ended same) uncut
      rw [ofRest_extended plain (cutless uncut), valid_uncut requested (cutless uncut), appendix.rooted]
      exact ⟨kept.1 ▸ accepted uncut, kept⟩
    | blank loose => exact absurd extendable.ended loose

end TenantAccess.Proofs
