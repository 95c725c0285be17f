import Mathlib

/-!
Texts inside a URL: percent encoding of the bytes of their UTF-8, and the pairs
of a query.
-/

namespace Greetup.Data

namespace Percent

/-! ### Bytes -/

def hexDigit (n : ℕ) : Char := "0123456789ABCDEF".toList.getD n '0'

def hexValue (c : Char) : Option ℕ :=
  if '0' ≤ c ∧ c ≤ '9' then some (c.toNat - '0'.toNat)
  else if 'A' ≤ c ∧ c ≤ 'F' then some (c.toNat - 'A'.toNat + 10)
  else if 'a' ≤ c ∧ c ≤ 'f' then some (c.toNat - 'a'.toNat + 10)
  else none

def escape (b : UInt8) : List Char := ['%', hexDigit (b.toNat / 16), hexDigit (b.toNat % 16)]

/-- The bytes of a text; a plus stands for a space. -/
def decode : List Char → List UInt8
  | [] => []
  | '+' :: rest => 0x20 :: decode rest
  | '%' :: a :: b :: rest =>
    match hexValue a, hexValue b with
    | some x, some y => UInt8.ofNat (16 * x + y) :: decode rest
    | _, _ => 0x25 :: decode (a :: b :: rest)
  | c :: rest => String.utf8EncodeChar c ++ decode rest

theorem hexValue_hexDigit (n : Fin 16) : hexValue (hexDigit n) = some n.val := by
  revert n
  decide

theorem decode_escape (b : UInt8) (rest : List Char) :
    decode (escape b ++ rest) = b :: decode rest := by
  have hhigh : b.toNat / 16 < 16 := Nat.div_lt_of_lt_mul b.toNat_lt
  have hlow : b.toNat % 16 < 16 := Nat.mod_lt _ (by decide)
  have hx := hexValue_hexDigit ⟨_, hhigh⟩
  have hy := hexValue_hexDigit ⟨_, hlow⟩
  show decode ('%' :: hexDigit (b.toNat / 16) :: hexDigit (b.toNat % 16) :: rest) = _
  rw [decode, hx, hy]
  show UInt8.ofNat (16 * (b.toNat / 16) + b.toNat % 16) :: decode rest = _
  rw [Nat.div_add_mod, UInt8.ofNat_toNat]

/-- A character that stands for itself. -/
theorem decode_cons {c : Char} {rest : List Char} (hplus : c ≠ '+') (hpercent : c ≠ '%') :
    decode (c :: rest) = String.utf8EncodeChar c ++ decode rest := by
  rw [decode]
  · exact hplus
  · rintro a b rest' rfl
    exact absurd rfl hpercent

/-- The character of an ASCII byte. -/
def plain (b : UInt8) : Char := Char.ofNat b.toNat

/-- A byte that is written as its character. -/
def kept (special : String) (b : UInt8) : Bool :=
  (plain b).isAlphanum || special.toList.contains (plain b)

/-- Bytes are read back from their characters, and no separator is among these. -/
structure Kept (b : UInt8) : Prop where
  encodes : String.utf8EncodeChar (plain b) = [b]
  plus : plain b ≠ '+'
  percent : plain b ≠ '%'
  separator : plain b ≠ '&' ∧ plain b ≠ '#' ∧ plain b ≠ '='

theorem Kept.decode {b : UInt8} (h : Kept b) (rest : List Char) :
    decode ([plain b] ++ rest) = b :: decode rest := by
  rw [List.singleton_append, decode_cons h.plus h.percent, h.encodes, List.singleton_append]

/-! ### Texts -/

/-- A way to write bytes that is read back as they were, without separators. -/
structure Encoder where
  byte : UInt8 → List Char
  decode_byte : ∀ b rest, decode (byte b ++ rest) = b :: decode rest
  separator : ∀ b, ∀ c ∈ byte b, c ≠ '&' ∧ c ≠ '#' ∧ c ≠ '='

def bytes (s : String) : List UInt8 := s.toByteArray.data.toList

def Encoder.encode (e : Encoder) (s : String) : List Char := (bytes s).flatMap e.byte

/-- The text, unless the bytes are not those of any. -/
def decodeText (l : List Char) : Option String := String.fromUTF8? ⟨(decode l).toArray⟩

theorem Encoder.decode_encode (e : Encoder) (s : String) : decode (e.encode s) = bytes s := by
  rw [encode]
  induction bytes s with
  | nil => rfl
  | cons b rest ih => rw [List.flatMap_cons, e.decode_byte, ih]

theorem Encoder.decodeText_encode (e : Encoder) (s : String) :
    decodeText (e.encode s) = some s := by
  rw [decodeText, e.decode_encode, bytes, Array.toArray_toList]
  exact dif_pos s.isValidUTF8

theorem Encoder.mem_encode {e : Encoder} {s : String} {c : Char} (h : c ∈ e.encode s) :
    c ≠ '&' ∧ c ≠ '#' ∧ c ≠ '=' := by
  obtain ⟨b, -, hc⟩ := List.mem_flatMap.mp h
  exact e.separator b c hc

theorem bytes_of_decodeText {l : List Char} {s : String} (h : decodeText l = some s) :
    bytes s = decode l := by
  rw [decodeText, String.fromUTF8?] at h
  split at h
  · cases h
    rfl
  · cases h

/-- How long a text is in UTF-8. -/
def size (l : List Char) : ℕ := (l.flatMap String.utf8EncodeChar).length

theorem length_bytes (s : String) : (bytes s).length = size s.toList := by
  have hbytes : bytes s = s.toList.flatMap String.utf8EncodeChar := by
    rw [bytes, ← String.utf8Encode_toList, List.utf8Encode, List.data_toByteArray]
  rw [hbytes, size]

theorem size_cons (c : Char) (l : List Char) :
    size (c :: l) = (String.utf8EncodeChar c).length + size l := by
  rw [size, List.flatMap_cons, List.length_append, size]

theorem size_append (l l' : List Char) : size (l ++ l') = size l + size l' := by
  rw [size, List.flatMap_append, List.length_append, size, size]

theorem size_le_of_sublist {l l' : List Char} (h : l.Sublist l') : size l ≤ size l' := by
  induction h with
  | slnil => exact Nat.le_refl _
  | cons c _ ih =>
      rw [size_cons]
      exact Nat.le_add_left_of_le ih
  | cons_cons c _ ih =>
      rw [size_cons, size_cons]
      exact Nat.add_le_add_left ih _

theorem length_decode_le (l : List Char) : (decode l).length ≤ size l := by
  have hpos (c : Char) : 1 ≤ (String.utf8EncodeChar c).length :=
    List.length_pos_of_ne_nil String.utf8EncodeChar_ne_nil
  fun_induction decode l with
  | case1 => exact Nat.zero_le _
  | case2 rest ih =>
      rw [List.length_cons, size_cons, Nat.add_comm]
      exact Nat.add_le_add (hpos _) ih
  | case3 a b rest x y hx hy ih =>
      rw [List.length_cons, size_cons, size_cons, size_cons]
      have := hpos '%'
      omega
  | case4 a b rest hnone ih =>
      rw [List.length_cons, size_cons, Nat.add_comm]
      exact Nat.add_le_add (hpos _) ih
  | case5 c rest hplus hpercent ih =>
      rw [List.length_append, size_cons]
      exact Nat.add_le_add_left ih _

/-! ### Two ways to write a text -/

instance (b : UInt8) : Decidable (Kept b) :=
  decidable_of_iff (String.utf8EncodeChar (plain b) = [b] ∧ plain b ≠ '+' ∧ plain b ≠ '%' ∧
    plain b ≠ '&' ∧ plain b ≠ '#' ∧ plain b ≠ '=')
    ⟨fun h => ⟨h.1, h.2.1, h.2.2.1, h.2.2.2⟩, fun h => ⟨h.1, h.2, h.3, h.4⟩⟩

theorem escape_separator (n : Fin 256) :
    (escape (UInt8.ofNat n)).all (fun c => c ≠ '&' && c ≠ '#' && c ≠ '=') = true := by
  revert n
  decide +kernel

theorem ofNat_toNat_fin (b : UInt8) : UInt8.ofNat (⟨b.toNat, b.toNat_lt⟩ : Fin 256) = b :=
  UInt8.ofNat_toNat

/-- Bytes are kept, or escaped. -/
def Encoder.ofKept (special : String)
    (h : ∀ n : Fin 256, kept special (UInt8.ofNat n) = true → Kept (UInt8.ofNat n)) : Encoder where
  byte b := if kept special b then [plain b] else escape b
  decode_byte b rest := by
    have hkept := h ⟨b.toNat, b.toNat_lt⟩
    rw [ofNat_toNat_fin] at hkept
    split
    · rename_i hb
      exact (hkept hb).decode rest
    · exact decode_escape b rest
  separator b c hc := by
    have hkept := h ⟨b.toNat, b.toNat_lt⟩
    have hescape := escape_separator ⟨b.toNat, b.toNat_lt⟩
    rw [ofNat_toNat_fin] at hkept hescape
    split at hc
    · rename_i hb
      cases List.mem_singleton.mp hc
      exact (hkept hb).separator
    · have hall := List.all_eq_true.mp hescape c hc
      simp only [Bool.and_eq_true, decide_eq_true_eq, and_assoc] at hall
      exact hall

/-- `encodeURIComponent` -/
def component : Encoder := .ofKept "-_.!~*'()" (by decide +kernel)

/-- `application/x-www-form-urlencoded` -/
def form : Encoder :=
  let rest := Encoder.ofKept "*-._" (by decide +kernel)
  { byte b := if b = 0x20 then ['+'] else rest.byte b
    decode_byte b l := by
      split
      · rename_i hb
        rw [hb, List.singleton_append, decode]
      · exact rest.decode_byte b l
    separator b c hc := by
      split at hc
      · cases List.mem_singleton.mp hc
        decide
      · exact rest.separator b c hc }

/-! ### Queries -/

/-- A query without its question mark. -/
def withoutMark : List Char → List Char
  | '?' :: query => query
  | query => query

/-- The name and the value of a piece, at the first equals sign. -/
def split (piece : List Char) : List Char × List Char :=
  (piece.takeWhile (· ≠ '='), (piece.dropWhile (· ≠ '=')).tail)

def pairs (search : List Char) : List (List Char × List Char) :=
  (((withoutMark search).splitOn '&').filter (· ≠ [])).map split

/-- The value of the first pair with the name. -/
def get (name : String) (search : List Char) : Option String :=
  ((pairs search).find? fun pair => decodeText pair.1 = some name).bind fun pair =>
    decodeText pair.2

/-- The pairs that can be read. -/
def params (search : List Char) : List (String × String) :=
  (pairs search).filterMap fun pair => do
    let name ← decodeText pair.1
    let value ← decodeText pair.2
    return (name, value)

/-- `URLSearchParams.toString` -/
def Encoder.text (e : Encoder) (params : List (String × String)) : List Char :=
  ['&'].intercalate (params.map fun param => e.encode param.1 ++ '=' :: e.encode param.2)

theorem mem_intercalate {α : Type} {sep : List α} {ls : List (List α)} {a : α}
    (h : a ∈ sep.intercalate ls) : a ∈ sep ∨ ∃ l ∈ ls, a ∈ l := by
  induction ls with
  | nil => cases h
  | cons l ls ih =>
      rcases eq_or_ne ls [] with rfl | hne
      · rw [List.intercalate_singleton] at h
        exact .inr ⟨l, List.mem_cons_self, h⟩
      · rw [List.intercalate_cons_of_ne_nil hne, List.mem_append, List.mem_append] at h
        rcases h with (h | h) | h
        · exact .inr ⟨l, List.mem_cons_self, h⟩
        · exact .inl h
        · exact (ih h).imp_right fun ⟨l', hl', ha⟩ => ⟨l', List.mem_cons_of_mem _ hl', ha⟩

theorem Encoder.hash_notMem_text (e : Encoder) (params : List (String × String)) :
    '#' ∉ e.text params := by
  intro h
  rcases mem_intercalate h with hsep | ⟨piece, hpiece, hmem⟩
  · exact absurd (List.mem_singleton.mp hsep) (by decide)
  · obtain ⟨param, -, rfl⟩ := List.mem_map.mp hpiece
    rcases List.mem_append.mp hmem with hname | hvalue
    · exact (e.mem_encode hname).2.1 rfl
    · rcases List.mem_cons.mp hvalue with heq | hvalue
      · exact absurd heq (by decide)
      · exact (e.mem_encode hvalue).2.1 rfl

theorem split_append {name : List Char} (h : '=' ∉ name) (value : List Char) :
    split (name ++ '=' :: value) = (name, value) := by
  have hall : ∀ c ∈ name, decide (c ≠ '=') = true := by
    rintro c hc
    exact decide_eq_true fun heq => h (heq ▸ hc)
  rw [split, List.takeWhile_append_of_pos hall, List.dropWhile_append_of_pos hall,
    List.takeWhile_cons_of_neg (by decide), List.dropWhile_cons_of_neg (by decide),
    List.append_nil, List.tail_cons]

/-- Pairs whose names have no separators are told apart again. -/
theorem Encoder.pairs_intercalate (e : Encoder) {written : List (List Char × String)}
    (hnames : ∀ pair ∈ written, '&' ∉ pair.1 ∧ '=' ∉ pair.1) :
    pairs ('?' :: ['&'].intercalate (written.map fun pair => pair.1 ++ '=' :: e.encode pair.2)) =
      written.map fun pair => (pair.1, e.encode pair.2) := by
  rw [pairs, withoutMark]
  rcases eq_or_ne written [] with rfl | hwritten
  · -- the one piece of an empty query is empty, and dropped
    rfl
  · rw [List.splitOn_intercalate '&' ?_ (mt List.map_eq_nil_iff.mp hwritten),
      List.filter_eq_self.mpr, List.map_map]
    · exact List.map_congr_left fun pair hpair => split_append (hnames pair hpair).2 _
    · intro piece hpiece
      obtain ⟨pair, -, rfl⟩ := List.mem_map.mp hpiece
      exact decide_eq_true (List.append_ne_nil_of_right_ne_nil _ (List.cons_ne_nil _ _))
    · intro piece hpiece
      obtain ⟨pair, hpair, rfl⟩ := List.mem_map.mp hpiece
      rw [List.mem_append, List.mem_cons, not_or, not_or]
      exact ⟨(hnames pair hpair).1, by decide, fun hmem => (e.mem_encode hmem).1 rfl⟩

/-- Parameters are read back as they were written. -/
theorem Encoder.params_text (e : Encoder) (written : List (String × String)) :
    params ('?' :: e.text written) = written := by
  have hpairs : pairs ('?' :: e.text written) =
      written.map fun param => (e.encode param.1, e.encode param.2) := by
    have hnames : ∀ pair ∈ written.map (fun param => (e.encode param.1, param.2)),
        '&' ∉ pair.1 ∧ '=' ∉ pair.1 := by
      intro pair hpair
      obtain ⟨param, -, rfl⟩ := List.mem_map.mp hpair
      exact ⟨fun hmem => (e.mem_encode hmem).1 rfl, fun hmem => (e.mem_encode hmem).2.2 rfl⟩
    have hboth := e.pairs_intercalate hnames
    rw [List.map_map, List.map_map] at hboth
    exact hboth
  rw [params, hpairs, List.filterMap_map]
  refine (List.filterMap_congr fun param _ => ?_).trans List.filterMap_some
  show (decodeText (e.encode param.1)).bind _ = some param
  rw [e.decodeText_encode, Option.bind_some]
  show (decodeText (e.encode param.2)).bind _ = some param
  rw [e.decodeText_encode]
  rfl

/-- A query of one pair. -/
def Encoder.query (e : Encoder) (name value : String) : List Char :=
  '?' :: name.toList ++ '=' :: e.encode value

theorem Encoder.get_query {e : Encoder} {name : String} (value : String)
    (hname : decodeText name.toList = some name) (hsep : '&' ∉ name.toList)
    (heq : '=' ∉ name.toList) : get name (e.query name value) = some value := by
  have hnames : ∀ pair ∈ [(name.toList, value)], '&' ∉ pair.1 ∧ '=' ∉ pair.1 := by
    intro pair hpair
    rw [List.mem_singleton.mp hpair]
    exact ⟨hsep, heq⟩
  have hpairs : pairs (e.query name value) = [(name.toList, e.encode value)] := by
    have hone := e.pairs_intercalate hnames
    rw [List.map_singleton, List.intercalate_singleton] at hone
    exact hone
  rw [get, hpairs, List.find?_singleton, decide_eq_true hname, if_pos rfl]
  exact e.decodeText_encode value

/-- What lies between separators is part of the whole. -/
theorem sublist_of_mem_splitOn {c : Char} {piece l : List Char} (h : piece ∈ l.splitOn c) :
    piece.Sublist l := by
  induction l generalizing piece with
  | nil =>
      rw [List.splitOn_nil, List.mem_singleton] at h
      rw [h]
  | cons c' l ih =>
      rw [List.splitOn_cons_eq_if_modifyHead] at h
      split at h
      · rcases List.mem_cons.mp h with rfl | h
        · exact List.nil_sublist _
        · exact (ih h).cons c'
      · cases hl : l.splitOn c with
        | nil => exact absurd hl (List.splitOn_ne_nil c l)
        | cons first rest =>
            rw [hl, List.modifyHead_cons] at h
            rcases List.mem_cons.mp h with rfl | h
            · exact (ih (hl ▸ List.mem_cons_self)).cons_cons c'
            · exact (ih (hl ▸ List.mem_cons_of_mem _ h)).cons c'

theorem split_append_sublist (piece : List Char) :
    ((split piece).1 ++ (split piece).2).Sublist piece := by
  conv_rhs => rw [← List.takeWhile_append_dropWhile (p := (· ≠ '=')) (l := piece)]
  exact (List.Sublist.refl _).append (List.tail_sublist _)

theorem withoutMark_sublist (search : List Char) : (withoutMark search).Sublist search := by
  cases search with
  | nil => exact List.Sublist.refl _
  | cons c query =>
      by_cases hc : c = '?'
      · rw [hc]
        exact List.sublist_cons_self _ _
      · rw [withoutMark]
        intro rest heq
        exact hc (List.cons_eq_cons.mp heq).1

/-- The value is shorter than the query it is read from. -/
theorem length_lt_of_get {name value : String} {search : List Char}
    (hname : 0 < (bytes name).length) (h : get name search = some value) :
    (bytes value).length < size search := by
  obtain ⟨pair, hfind, hvalue⟩ := Option.bind_eq_some_iff.mp h
  have hpair : decodeText pair.1 = some name := by
    have hfound := List.find?_some (p := fun pair : List Char × List Char =>
      decide (decodeText pair.1 = some name)) hfind
    exact of_decide_eq_true hfound
  obtain ⟨piece, hpiece, rfl⟩ := List.mem_map.mp (List.mem_of_find?_eq_some hfind)
  have hsub := (split_append_sublist piece).trans
    ((sublist_of_mem_splitOn (List.mem_filter.mp hpiece).1).trans (withoutMark_sublist search))
  calc (bytes value).length
      < (bytes name).length + (bytes value).length := Nat.lt_add_of_pos_left hname
    _ ≤ size (split piece).1 + size (split piece).2 := by
        rw [bytes_of_decodeText hpair, bytes_of_decodeText hvalue]
        exact Nat.add_le_add (length_decode_le _) (length_decode_le _)
    _ = size ((split piece).1 ++ (split piece).2) := (size_append _ _).symm
    _ ≤ size search := size_le_of_sublist hsub

end Percent

end Greetup.Data
