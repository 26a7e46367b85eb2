import Mathlib.Tactic.Ring
import CreditExtraction.Text.Uuid

/-! # Identifiers read back from their text

An identifier is written as 32 lower-case hexadecimal digits in groups of 8-4-4-4-12
(`Uuid.toText`). Reading that text gives the identifier back, as its low 128 bits
(`parse_toText`), so an identifier the store reads from a row it wrote has the text it was
written with (`toText_of_parse_toText`): conditions on that text find the same rows. -/

namespace CreditExtraction

/-! ## Bytes of a text -/

theorem ByteArray.size_eq_length (bs : ByteArray) : bs.size = bs.data.toList.length := by
  rw [Array.length_toList]
  rfl

/-- Listing the bytes from a position on puts the bytes there after those already listed. -/
theorem ByteArray.toList_loop_eq (bs : ByteArray) (i : Nat) (r : List UInt8) :
    ByteArray.toList.loop bs i r = r.reverse ++ bs.data.toList.drop i := by
  fun_induction ByteArray.toList.loop bs i r with
  | case1 i r hi ih =>
      have hi' : i < bs.data.toList.length := by
        rw [← ByteArray.size_eq_length]
        exact hi
      have hget : bs.get! i = bs.data.toList[i] := by
        have hi2 : i < bs.data.size := by simpa using hi'
        simp [ByteArray.get!, getElem!_pos bs.data i hi2]
      rw [ih, List.drop_eq_getElem_cons hi', hget]
      simp
  | case2 i r hi =>
      have hlen : bs.data.toList.length ≤ i := by
        rw [← ByteArray.size_eq_length]
        omega
      simp [List.drop_eq_nil_of_le hlen]

theorem ByteArray.toList_eq (bs : ByteArray) : bs.toList = bs.data.toList := by
  simp [ByteArray.toList, ByteArray.toList_loop_eq]

namespace Uuid

/-- The byte of an ASCII character. -/
def asciiByte (c : Char) : UInt8 := UInt8.ofNat c.toNat

theorem utf8EncodeChar_ascii {c : Char} (h : c.toNat < 128) :
    String.utf8EncodeChar c = [asciiByte c] := by
  have hc : c.toNat ≤ 127 := by omega
  simp [String.utf8EncodeChar, asciiByte, hc]

/-- A text of ASCII characters is written one byte per character. -/
theorem toUTF8_ascii (cs : List Char) (h : ∀ c ∈ cs, c.toNat < 128) :
    (String.ofList cs).toUTF8.toList = cs.map asciiByte := by
  have henc : cs.flatMap String.utf8EncodeChar = cs.map asciiByte := by
    induction cs with
    | nil => rfl
    | cons c cs ih =>
        rw [List.flatMap_cons, List.map_cons, utf8EncodeChar_ascii (h c List.mem_cons_self),
          ih fun d hd => h d (List.mem_cons_of_mem c hd)]
        rfl
  rw [String.toUTF8, String.toByteArray_ofList, ByteArray.toList_eq, List.utf8Encode,
    List.data_toByteArray, List.toList_toArray, henc]

/-! ## Hexadecimal digits -/

theorem hexVal_hexDigit : ∀ d < 16, hexVal (asciiByte (Text.Quoted.hexDigit d)) = some d := by
  decide

theorem hexDigit_ascii : ∀ d < 16, (Text.Quoted.hexDigit d).toNat < 128 := by
  decide

theorem hexFixed_succ (w n : Nat) :
    Text.Quoted.hexFixed (w + 1) n =
      Text.Quoted.hexDigit (n / Nat.pow 16 w % 16) :: Text.Quoted.hexFixed w n := by
  simp [Text.Quoted.hexFixed, List.range_succ]

/-- Reading `w` digits written for `n` gives `n` modulo `16 ^ w`, after what was read before. -/
theorem readHex_hexFixed (w n acc : Nat) :
    readHex ((Text.Quoted.hexFixed w n).map asciiByte) acc =
      some (acc * Nat.pow 16 w + n % Nat.pow 16 w) := by
  induction w generalizing acc with
  | zero => simp [readHex, Text.Quoted.hexFixed, Nat.mod_one]
  | succ w ih =>
      rw [hexFixed_succ, List.map_cons, readHex, hexVal_hexDigit _ (Nat.mod_lt _ (by omega))]
      simp only [ih, Nat.pow_eq, Option.some.injEq, Nat.pow_succ, Nat.mod_mul]
      ring

/-- Digits in groups of 8-4-4-4-12, joined by dashes. -/
def grouped (ds : List Char) : List Char :=
  ds.take 8 ++ '-' :: (ds.drop 8).take 4 ++ '-' :: (ds.drop 12).take 4 ++
    '-' :: (ds.drop 16).take 4 ++ '-' :: ds.drop 20

theorem toText_eq (u : Uuid) :
    u.toText = String.ofList (grouped (Text.Quoted.hexFixed 32 (u.val % Nat.pow 2 128))) := rfl

theorem mem_grouped {ds : List Char} {c : Char} (h : c ∈ grouped ds) : c ∈ ds ∨ c = '-' := by
  simp only [grouped, List.mem_append, List.mem_cons] at h
  grind [List.mem_of_mem_take, List.mem_of_mem_drop]

/-- The bytes of the grouped digits: dashes at 8, 13, 18 and 23, and the digits around them. -/
theorem grouped_bytes (m : Nat) :
    let bs := (grouped (Text.Quoted.hexFixed 32 m)).map asciiByte
    bs.length = 36 ∧ bs[8]? = some 45 ∧ bs[13]? = some 45 ∧ bs[18]? = some 45 ∧
      bs[23]? = some 45 ∧
      bs.take 8 ++ (bs.drop 9).take 4 ++ (bs.drop 14).take 4 ++ (bs.drop 19).take 4 ++
        bs.drop 24 = (Text.Quoted.hexFixed 32 m).map asciiByte := by
  intro bs
  simp [bs, grouped, Text.Quoted.hexFixed, List.range_succ, asciiByte]

/-! ## Reading an identifier's text -/

/-- Reading an identifier's text gives its low 128 bits. -/
theorem parse_toText (u : Uuid) : parse u.toText = .ok ⟨u.val % Nat.pow 2 128⟩ := by
  obtain ⟨hlen, h8, h13, h18, h23, hdigits⟩ := grouped_bytes (u.val % Nat.pow 2 128)
  have hascii : ∀ c ∈ grouped (Text.Quoted.hexFixed 32 (u.val % Nat.pow 2 128)), c.toNat < 128 := by
    intro c hc
    rcases mem_grouped hc with hc | rfl
    · simp only [Text.Quoted.hexFixed, List.mem_map] at hc
      obtain ⟨i, -, rfl⟩ := hc
      exact hexDigit_ascii _ (Nat.mod_lt _ (by omega))
    · decide
  have hlt : u.val % Nat.pow 2 128 < Nat.pow 16 32 := by
    have h : Nat.pow 2 128 = Nat.pow 16 32 := by decide
    rw [h]
    exact Nat.mod_lt _ (by decide)
  rw [toText_eq, parse, toUTF8_ascii _ hascii, hlen]
  simp only [readDashed, h8, h13, h18, h23, bne_self_eq_false, Bool.or_self, Bool.false_eq_true,
    ↓reduceIte, hdigits, readHex_hexFixed, Nat.zero_mul, Nat.zero_add, Nat.mod_eq_of_lt hlt]

theorem toText_mod (u : Uuid) : (⟨u.val % Nat.pow 2 128⟩ : Uuid).toText = u.toText := by
  simp [toText]

/-- An identifier read from the text of one has that text. -/
theorem toText_of_parse_toText {u v : Uuid} (h : parse u.toText = .ok v) :
    v.toText = u.toText := by
  rw [parse_toText] at h
  cases h
  exact toText_mod u

end Uuid

end CreditExtraction
