import TagSearch.Catalog.TokenTable
import Mathlib

/-!
# Tokens of tags

The token of a tag is its text in hexadecimal digits. It tells tags apart, it is what the table
stores, and a cell that holds it has no other token.

* `bytesOfHex_hex`: the bytes of a text are read back from its digits.
* `tagToken_inj`: two tags with one token are one tag.
* `storedCell_eq_tagToken`: the cell stored for a tag is its token.
* `cellTokens_tagToken`: the token of a tag is the only token of its cell.
-/

namespace TagSearch

namespace Text

theorem toLower_hexDigit {n : Nat} (h : n < 16) : (hexDigit 'A' n).toLower = hexDigit 'a' n := by
  have all : ∀ n < 16, (hexDigit 'A' n).toLower = hexDigit 'a' n := by decide
  exact all n h

theorem tokenRole_hexDigit {n : Nat} (h : n < 16) :
    tokenRole (hexDigit 'a' n) = .letter (hexDigit 'a' n) := by
  have all : ∀ n < 16, tokenRole (hexDigit 'a' n) = .letter (hexDigit 'a' n) := by decide
  exact all n h

theorem halves_lt (b : UInt8) : b.toNat / 16 < 16 ∧ b.toNat % 16 < 16 := by
  have := b.toNat_lt
  omega

theorem map_toLower_hexByte (b : UInt8) : (hexByte 'A' b).map Char.toLower = hexByte 'a' b := by
  obtain ⟨hi, lo⟩ := halves_lt b
  simp [hexByte, toLower_hexDigit hi, toLower_hexDigit lo]

/-- The bytes are read back from their digits. -/
theorem bytesOfHex_hexBytes (bs : List UInt8) :
    bytesOfHex (bs.flatMap (hexByte 'a')) = some bs := by
  induction bs with
  | nil => rfl
  | cons b bs ih =>
    obtain ⟨hi, lo⟩ := halves_lt b
    have whole : UInt8.ofNat (16 * (b.toNat / 16) + b.toNat % 16) = b := by
      rw [Nat.div_add_mod, UInt8.ofNat_toNat]
    simp only [List.flatMap_cons, hexByte, List.cons_append, List.nil_append, bytesOfHex,
      hexValue?_hexDigit hi, hexValue?_hexDigit lo, ih, Option.bind_eq_bind, Option.bind_some,
      Option.pure_def, whole]

theorem bytesOfHex_hex (s : String) : bytesOfHex (hex s).toList = some (bytes s) := by
  rw [hex, String.toList_ofList, bytesOfHex_hexBytes]

theorem bytes_inj {s t : String} : bytes s = bytes t ↔ s = t := by
  constructor
  · intro h
    have data : s.toUTF8.data = t.toUTF8.data := Array.toList_inj.1 h
    simpa [String.toByteArray_inj] using ByteArray.ext data
  · rintro rfl
    rfl

end Text

/-! ## Tokens and cells -/

theorem storedCell_eq_tagToken (name : String) : storedCell name = tagToken name := by
  rw [storedCell, tagToken, Text.hexUpper, Text.hex, String.toLower, String.map_eq_internal,
    String.toList_ofList, List.map_flatMap]
  simp only [Text.map_toLower_hexByte]

theorem tagToken_inj {m n : String} : tagToken m = tagToken n ↔ m = n := by
  constructor
  · intro h
    have read := Text.bytesOfHex_hex m
    rw [← tagToken, h, tagToken, Text.bytesOfHex_hex] at read
    exact (Text.bytes_inj.1 (Option.some.inj read)).symm
  · rintro rfl
    rfl

/-- Reading a cell, the digits of some bytes lengthen the token that is being read. -/
theorem tokensFrom_hexBytes (bs : List UInt8) (run : List Char) :
    tokensFrom run (bs.flatMap (Text.hexByte 'a')) =
      tokensFrom ((bs.flatMap (Text.hexByte 'a')).reverse ++ run) [] := by
  induction bs generalizing run with
  | nil => rfl
  | cons b bs ih =>
    obtain ⟨hi, lo⟩ := Text.halves_lt b
    rw [List.flatMap_cons, List.reverse_append, List.append_assoc, ← ih]
    simp [Text.hexByte, tokensFrom, Text.tokenRole_hexDigit hi, Text.tokenRole_hexDigit lo]

theorem tagToken_ne_empty {name : String} (h : name ≠ "") : tagToken name ≠ "" := by
  have empty : tagToken "" = "" := rfl
  rw [← empty]
  exact fun e => h (tagToken_inj.1 e)

/-- The token of a tag is the only token of its cell. -/
theorem cellTokens_tagToken {name : String} (h : name ≠ "") :
    cellTokens (tagToken name) = [tagToken name] := by
  have digits : (tagToken name).toList = (Text.bytes name).flatMap (Text.hexByte 'a') :=
    String.toList_ofList
  have ne : (tagToken name).toList ≠ [] := fun e =>
    tagToken_ne_empty h (String.toList_inj.1 (by rw [e]; rfl))
  rw [digits] at ne
  rw [cellTokens, digits, tokensFrom_hexBytes, List.append_nil, tokensFrom, List.isEmpty_reverse,
    List.reverse_reverse, ← digits, String.ofList_toList, if_neg (by simpa [digits] using ne)]

end TagSearch
