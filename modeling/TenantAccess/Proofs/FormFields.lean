import Mathlib.Tactic.IntervalCases
import TenantAccess.Text.Form
import TenantAccess.Text.Percent

/-! A form, and what its reader makes of it. Whatever the texts are that are written into its fields, the reader finds
them again, and finds nothing else. -/

namespace TenantAccess.Proofs

/-- In a form a plus is a blank. -/
def spaced (c : Char) : Char := if c = '+' then ' ' else c

def readFormText (text : List Char) : String := Utf8.decode (Percent.lenient (text.map spaced))

/-- A piece of a form is cut where it first says what is equal. -/
def readFormField (piece : List Char) : String × String :=
  (readFormText (piece.takeWhile (· ≠ '=')), readFormText ((piece.dropWhile (· ≠ '=')).drop 1))

/-- The fields of a form, in order. An empty piece is no field. -/
def readForm (body : String) : List (String × String) :=
  ((body.toList.splitOn '&').filter (· ≠ [])).map readFormField

theorem octet_toNat {n : Nat} (below : n < 256) : (UInt8.ofNat n).toNat = n := UInt8.toNat_ofNat_of_lt' below

section
variable {owed low high bits n : Nat} (read : List Char) (rest : List UInt8)

theorem decode_lead (below : n < 256) (begins : Utf8.begin? n = some ⟨owed + 1, low, high, bits⟩) :
    Utf8.decodeFrom none read (UInt8.ofNat n :: rest) =
      Utf8.decodeFrom (some ⟨owed + 1, low, high, bits⟩) read rest := by
  simp only [Utf8.decodeFrom, Utf8.step, Utf8.start, octet_toNat below, begins, Nat.succ_ne_zero, if_false,
    List.reverse_nil, List.nil_append]

theorem decode_more (least : low ≤ n % 0x40 + 0x80) (most : n % 0x40 + 0x80 ≤ high) :
    Utf8.decodeFrom (some ⟨owed + 2, low, high, bits⟩) read (UInt8.ofNat (n % 0x40 + 0x80) :: rest) =
      Utf8.decodeFrom (some ⟨owed + 1, 0x80, 0xBF, bits * 64 + n % 0x40⟩) read rest := by
  have octet : (UInt8.ofNat (n % 0x40 + 0x80)).toNat = n % 0x40 + 0x80 := octet_toNat (by omega)
  have more : owed + 2 ≠ 1 := by omega
  simp only [Utf8.decodeFrom, Utf8.step, octet, least, most, decide_true, Bool.and_self, if_true, if_neg more,
    Nat.add_sub_cancel, List.reverse_nil, List.nil_append, Nat.add_succ_sub_one]

theorem decode_last (least : low ≤ n % 0x40 + 0x80) (most : n % 0x40 + 0x80 ≤ high) :
    Utf8.decodeFrom (some ⟨1, low, high, bits⟩) read (UInt8.ofNat (n % 0x40 + 0x80) :: rest) =
      Utf8.decodeFrom none (Char.ofNat (bits * 64 + n % 0x40) :: read) rest := by
  have octet : (UInt8.ofNat (n % 0x40 + 0x80)).toNat = n % 0x40 + 0x80 := octet_toNat (by omega)
  simp only [Utf8.decodeFrom, Utf8.step, octet, least, most, decide_true, Bool.and_self, if_true, Nat.add_sub_cancel,
    List.reverse_singleton, List.singleton_append]

end

theorem begin_two {bits : Nat} (least : 2 ≤ bits) (most : bits ≤ 0x1F) :
    Utf8.begin? (bits + 0xC0) = some ⟨1, 0x80, 0xBF, bits⟩ := by
  interval_cases bits <;> rfl

theorem begin_three {bits : Nat} (most : bits ≤ 0xF) :
    Utf8.begin? (bits + 0xE0) =
      some ⟨2, if bits = 0 then 0xA0 else 0x80, if bits = 0xD then 0x9F else 0xBF, bits⟩ := by
  interval_cases bits <;> rfl

theorem begin_four {bits : Nat} (most : bits ≤ 4) :
    Utf8.begin? (bits + 0xF0) =
      some ⟨3, if bits = 0 then 0x90 else 0x80, if bits = 4 then 0x8F else 0xBF, bits⟩ := by
  interval_cases bits <;> rfl

/-- The octets of a character are read as this character, whatever comes behind them. -/
theorem decode_character (c : Char) (read : List Char) (rest : List UInt8) :
    Utf8.decodeFrom none read (String.utf8EncodeChar c ++ rest) = Utf8.decodeFrom none (c :: read) rest := by
  have whole : Char.ofNat c.val.toNat = c := Char.ofNat_toNat c
  have valid : c.val.toNat < 0xD800 ∨ 0xDFFF < c.val.toNat ∧ c.val.toNat < 0x110000 := c.valid
  unfold String.utf8EncodeChar
  generalize c.val.toNat = v at whole valid
  subst whole
  dsimp only
  split
  next ascii =>
    have begins : Utf8.begin? v = some ⟨0, 0, 0, v⟩ := by rw [Utf8.begin?, if_pos (by omega)]
    simp only [List.singleton_append, Utf8.decodeFrom, Utf8.step, Utf8.start, octet_toNat (Nat.lt_of_le_of_lt ascii
      (by decide)), begins, if_true, List.reverse_singleton]
  · split
    next =>
      have begins := @begin_two (v / 64 % 0x20) (by omega) (by omega)
      have bits : v / 64 % 0x20 * 64 + v % 0x40 = v := by omega
      simp only [List.cons_append, List.nil_append]
      rw [decode_lead _ _ (by omega) begins, decode_last _ _ (by omega) (by omega), bits]
    · split
      next =>
        have begins := @begin_three (v / 4096 % 0x10) (by omega)
        have bits : (v / 4096 % 0x10 * 64 + v / 64 % 0x40) * 64 + v % 0x40 = v := by omega
        simp only [List.cons_append, List.nil_append]
        rw [decode_lead _ _ (by omega) begins, decode_more _ _ (by split <;> omega) (by split <;> omega),
          decode_last _ _ (by omega) (by omega), bits]
      next =>
        have begins := @begin_four (v / 262144 % 8) (by omega)
        have bits : ((v / 262144 % 8 * 64 + v / 4096 % 0x40) * 64 + v / 64 % 0x40) * 64 + v % 0x40 = v := by omega
        simp only [List.cons_append, List.nil_append]
        rw [decode_lead _ _ (by omega) begins, decode_more _ _ (by split <;> omega) (by split <;> omega),
          decode_more _ _ (by omega) (by omega), decode_last _ _ (by omega) (by omega), bits]

theorem decode_characters (text : List Char) (read : List Char) :
    Utf8.decodeFrom none read (text.flatMap String.utf8EncodeChar) = read.reverse ++ text := by
  induction text generalizing read with
  | nil => simp [Utf8.decodeFrom]
  | cons c rest ih =>
    rw [List.flatMap_cons, decode_character, ih, List.reverse_cons, List.append_assoc, List.singleton_append]

theorem octets_listed (bytes : ByteArray) (index : Nat) (read : List UInt8) :
    ByteArray.toList.loop bytes index read = read.reverse ++ bytes.data.toList.drop index := by
  fun_induction ByteArray.toList.loop bytes index read with
  | case1 index read inside ih =>
    have within : index < bytes.data.toList.length := by simpa using inside
    have first : bytes.get! index = bytes.data.toList[index] := by
      rw [Array.getElem_toList]
      exact getElem!_pos bytes.data index inside
    rw [ih, List.reverse_cons, List.append_assoc, List.singleton_append, first, ← List.drop_eq_getElem_cons within]
  | case2 index read outside =>
    rw [List.drop_eq_nil_of_le (by simpa using Nat.le_of_not_lt outside), List.append_nil]

theorem encode_characters (text : String) : Utf8.encode text = text.toList.flatMap String.utf8EncodeChar := by
  have octets : text.toByteArray.data.toList = text.toList.flatMap String.utf8EncodeChar := by
    rw [← String.utf8Encode_toList]
    exact List.toList_data_toByteArray
  rw [Utf8.encode, String.toUTF8_eq_toByteArray, ByteArray.toList, octets_listed, octets, List.reverse_nil,
    List.nil_append, List.drop_zero]

theorem decode_encode (text : String) : Utf8.decode (Utf8.encode text) = text := by
  rw [Utf8.decode, encode_characters, decode_characters, List.reverse_nil, List.nil_append, String.ofList_toList]

/-- What a form writes as it is has one octet, and is none of the characters that mean something else there. -/
theorem plain_octet {octet : UInt8} (plain : Form.isPlain octet = true) :
    octet.toNat < 128 ∧ Char.ofNat octet.toNat ∉ ['+', '%', '&', '='] := by
  have table : ∀ n < 256, Form.isPlain (UInt8.ofNat n) = true → n < 128 ∧ Char.ofNat n ∉ ['+', '%', '&', '='] := by
    decide +kernel
  have written := table octet.toNat octet.toNat_lt
  rw [UInt8.ofNat_toNat] at written
  exact written plain

theorem plain_ascii {n : Nat} (ascii : n < 128) : Percent.plain (Char.ofNat n) = [UInt8.ofNat n] := by
  have table : ∀ n < 128, (Char.ofNat n).val.toNat = n := by decide
  have code := table n ascii
  rw [Percent.plain, encode_characters, String.toList_singleton, List.flatMap_singleton, String.utf8EncodeChar]
  simp only [code, if_pos (Nat.le_of_lt_succ ascii)]

theorem lenient_cons {c : Char} (other : c ≠ '%') (rest : List Char) :
    Percent.lenient (c :: rest) = Percent.plain c ++ Percent.lenient rest := by
  rw [Percent.lenient]
  exact fun _ _ _ escape _ => other escape

theorem hexValue_upperHex : ∀ n < 16, Percent.hexValue? (Form.upperHex n) = some n := by decide

theorem upperHex_apart : ∀ n < 16, Form.upperHex n ∉ ['+', '&', '='] := by decide

theorem octet_digits (octet : UInt8) : octet.toNat / 16 < 16 ∧ octet.toNat % 16 < 16 := by
  have below := octet.toNat_lt
  omega

theorem lenient_octet (octet : UInt8) (rest : List Char) :
    Percent.lenient ((Form.encodeOctet octet).map spaced ++ rest) = octet :: Percent.lenient rest := by
  unfold Form.encodeOctet
  split
  next blank =>
    subst blank
    have written : Percent.plain ' ' = [0x20] := @plain_ascii 0x20 (by decide)
    exact (lenient_cons (by decide) rest).trans (congrArg (· ++ Percent.lenient rest) written)
  · split
    next plain =>
      obtain ⟨ascii, apart⟩ := plain_octet plain
      simp only [List.mem_cons, List.not_mem_nil, or_false, not_or] at apart
      rw [List.map_singleton, List.singleton_append, spaced, if_neg apart.1, lenient_cons apart.2.1, plain_ascii ascii,
        UInt8.ofNat_toNat, List.singleton_append]
    next =>
      obtain ⟨high, low⟩ := octet_digits octet
      have kept : ∀ n < 16, spaced (Form.upperHex n) = Form.upperHex n := by decide
      have value : octet.toNat / 16 * 16 + octet.toNat % 16 = octet.toNat := by omega
      simp only [List.map_cons, List.map_nil, List.cons_append, List.nil_append, kept _ high, kept _ low]
      have digits : Percent.octet? (Form.upperHex (octet.toNat / 16)) (Form.upperHex (octet.toNat % 16)) =
          some octet := by
        rw [Percent.octet?, hexValue_upperHex _ high, hexValue_upperHex _ low]
        simp only [value, UInt8.ofNat_toNat]
      change Percent.lenient ('%' :: _ :: _ :: rest) = _
      rw [Percent.lenient, digits]

theorem lenient_octets (octets : List UInt8) :
    Percent.lenient ((octets.flatMap Form.encodeOctet).map spaced) = octets := by
  induction octets with
  | nil => rfl
  | cons octet rest ih => rw [List.flatMap_cons, List.map_append, lenient_octet, ih]

theorem readFormText_encode (text : String) : readFormText (Form.encode text).toList = text := by
  rw [readFormText, Form.encode, String.toList_ofList, lenient_octets]
  exact decode_encode text

theorem encode_unseparated (text : String) : '&' ∉ (Form.encode text).toList ∧ '=' ∉ (Form.encode text).toList := by
  have octetwise (octet : UInt8) : '&' ∉ Form.encodeOctet octet ∧ '=' ∉ Form.encodeOctet octet := by
    unfold Form.encodeOctet
    split
    · decide
    · split
      next plain =>
        have apart := (plain_octet plain).2
        simp only [List.mem_cons, List.not_mem_nil, or_false, not_or] at apart ⊢
        exact ⟨Ne.symm apart.2.2.1, Ne.symm apart.2.2.2⟩
      next =>
        have high := upperHex_apart _ (octet_digits octet).1
        have low := upperHex_apart _ (octet_digits octet).2
        simp only [List.mem_cons, List.not_mem_nil, or_false, not_or] at high low ⊢
        exact ⟨⟨by decide, Ne.symm high.2.1, Ne.symm low.2.1⟩, by decide, Ne.symm high.2.2, Ne.symm low.2.2⟩
  rw [Form.encode, String.toList_ofList]
  simp only [List.mem_flatMap, not_exists, not_and]
  exact ⟨fun octet _ => (octetwise octet).1, fun octet _ => (octetwise octet).2⟩

/-- The reader of a form with one field finds just this field, whatever the name and the value are. -/
theorem readForm_pair (name value : String) : readForm (Form.pair name value) = [(name, value)] := by
  have named := encode_unseparated name
  have valued := encode_unseparated value
  have body : (Form.pair name value).toList = (Form.encode name).toList ++ '=' :: (Form.encode value).toList := by
    rw [Form.pair, String.toList_append, String.toList_append, List.append_assoc]
    rfl
  have whole : '&' ∉ (Form.encode name).toList ++ '=' :: (Form.encode value).toList := by
    simp only [List.mem_append, List.mem_cons, not_or]
    exact ⟨named.1, by decide, valued.1⟩
  have front : ∀ c ∈ (Form.encode name).toList, decide (c ≠ '=') = true := by
    intro c inside
    exact decide_eq_true fun same => named.2 (same ▸ inside)
  have field : readFormField ((Form.encode name).toList ++ '=' :: (Form.encode value).toList) = (name, value) := by
    rw [readFormField, List.takeWhile_append_of_pos front, List.dropWhile_append_of_pos front,
      List.takeWhile_cons_of_neg (by decide), List.append_nil, List.dropWhile_cons_of_neg (by decide),
      List.drop_succ_cons, List.drop_zero, readFormText_encode, readFormText_encode]
  rw [readForm, body, List.splitOn_eq_singleton whole, List.filter_cons_of_pos (by simp), List.filter_nil,
    List.map_singleton, field]

end TenantAccess.Proofs
