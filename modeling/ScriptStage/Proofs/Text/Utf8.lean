import Mathlib.Data.List.Lex
import Mathlib.Data.String.Basic
import ScriptStage.Text.Utf8

/-!
# Texts and their bytes

UTF-8 lays out the bytes of a character in one of four ways, by how many bits its number has. From
these layouts alone it follows that the bytes of a text are decoded to that text, that a line feed
among the bytes is one in the text, and that texts are ordered as their bytes are.

## Main definitions

* `ScriptStage.Text.Layout` — the layouts.

## Main results

* `ScriptStage.Text.layout_utf8EncodeChar` — the bytes of each character have one of them.
* `ScriptStage.Text.decode_encode` — the bytes of a text are decoded to it.
* `ScriptStage.Text.mem_encode_lineFeed` — where there is a line feed in the bytes.
* `ScriptStage.Text.encode_lt_encode_iff`, `toUTF8_lt_iff` — texts are ordered as their bytes are.
-/

set_option autoImplicit false

namespace ScriptStage.Text

/-! ## Layouts -/

/-- **How the bytes of a character are laid out**, given its number: one byte that holds it, or a
first byte with its highest bits and one to three bytes with six bits each. -/
inductive Layout : ℕ → List UInt8 → Prop
  | one {n : ℕ} (high : n < 0x80) : Layout n [.ofNat n]
  | two {n : ℕ} (low : 0x80 ≤ n) (high : n < 0x800) :
    Layout n [.ofNat (0xC0 + n / 64), .ofNat (0x80 + n % 64)]
  | three {n : ℕ} (low : 0x800 ≤ n) (high : n < 0x10000) :
    Layout n [.ofNat (0xE0 + n / 64 / 64), .ofNat (0x80 + n / 64 % 64), .ofNat (0x80 + n % 64)]
  | four {n : ℕ} (low : 0x10000 ≤ n) (high : n < 0x110000) :
    Layout n [.ofNat (0xF0 + n / 64 / 64 / 64), .ofNat (0x80 + n / 64 / 64 % 64),
      .ofNat (0x80 + n / 64 % 64), .ofNat (0x80 + n % 64)]

/-- The number of a character is no surrogate. -/
lemma toNat_valid (c : Char) : c.toNat < 0xD800 ∨ 0xDFFF < c.toNat ∧ c.toNat < 0x110000 :=
  c.valid

/-- **The bytes of a character** are laid out in one of these ways. -/
lemma layout_utf8EncodeChar (c : Char) : Layout c.toNat (String.utf8EncodeChar c) := by
  have hvalid := toNat_valid c
  have hval : c.val.toNat = c.toNat := rfl
  simp only [String.utf8EncodeChar, hval]
  generalize c.toNat = n at hvalid
  split
  · exact .one (by omega)
  split
  · rw [show n / 64 % 32 + 192 = 0xC0 + n / 64 by omega, Nat.add_comm (n % 64)]
    exact .two (by omega) (by omega)
  split
  · rw [show n / 4096 % 16 + 224 = 0xE0 + n / 64 / 64 by omega, Nat.add_comm (n / 64 % 64),
      Nat.add_comm (n % 64)]
    exact .three (by omega) (by omega)
  · rw [show n / 262144 % 8 + 240 = 0xF0 + n / 64 / 64 / 64 by omega,
      show n / 4096 % 64 + 128 = 0x80 + n / 64 / 64 % 64 by omega, Nat.add_comm (n / 64 % 64),
      Nat.add_comm (n % 64)]
    exact .four (by omega) (by omega)

/-- What the loop over the bytes of an array has still to collect. -/
lemma toList_loop {bs : ByteArray} {n i : ℕ} (h : bs.size = i + n) (collected : List UInt8) :
    ByteArray.toList.loop bs i collected = collected.reverse ++ bs.data.toList.drop i := by
  have hlength : bs.data.toList.length = bs.size := rfl
  rw [ByteArray.toList.loop]
  induction n generalizing i collected with
  | zero =>
    rw [if_neg (by omega), List.drop_eq_nil_of_le (by omega), List.append_nil]
  | succ n ih =>
    have hi : i < bs.data.toList.length := by omega
    have hget : bs.get! i = bs.data.toList[i] := getElem!_pos bs.data i hi
    rw [if_pos (by omega), ByteArray.toList.loop, ih (by omega), List.drop_eq_getElem_cons hi, hget,
      List.reverse_cons, List.append_assoc, List.singleton_append]

/-- The bytes of a string are those of its characters. -/
lemma toList_toUTF8 (s : String) : s.toUTF8.toList = encode s.toList := by
  rw [ByteArray.toList, toList_loop (Nat.zero_add _).symm, String.toUTF8_eq_toByteArray,
    ← String.utf8Encode_toList, List.utf8Encode, List.toList_data_toByteArray]
  rfl

lemma encode_cons (c : Char) (t : List Char) :
    encode (c :: t) = String.utf8EncodeChar c ++ encode t :=
  List.flatMap_cons

lemma encode_append (s t : List Char) : encode (s ++ t) = encode s ++ encode t :=
  List.flatMap_append

/-! ## Decoding -/

lemma followRanges_one : ∀ k < 128,
    followRanges (.ofNat k) = some [] ∧ firstBits (.ofNat k) = k := by
  decide

lemma followRanges_two : ∀ k < 32, 2 ≤ k →
    followRanges (.ofNat (0xC0 + k)) = some [(0x80, 0xBF)] ∧ firstBits (.ofNat (0xC0 + k)) = k := by
  decide

lemma followRanges_three : ∀ k < 16,
    followRanges (.ofNat (0xE0 + k)) =
      some [(if k = 0 then 0xA0 else 0x80, if k = 13 then 0x9F else 0xBF), (0x80, 0xBF)] ∧
    firstBits (.ofNat (0xE0 + k)) = k := by
  decide

lemma followRanges_four : ∀ k < 5,
    followRanges (.ofNat (0xF0 + k)) =
      some [(if k = 0 then 0x90 else 0x80, if k = 4 then 0x8F else 0xBF), (0x80, 0xBF),
        (0x80, 0xBF)] ∧
    firstBits (.ofNat (0xF0 + k)) = k := by
  decide

/-- A further byte adds six bits. -/
lemma readFollowing_cons {low high : UInt8} {m : ℕ} (hm : m < 64) (hlow : low.toNat ≤ 0x80 + m)
    (hhigh : 0x80 + m ≤ high.toNat) (ranges : List (UInt8 × UInt8)) (count n : ℕ)
    (bs : List UInt8) :
    readFollowing ((low, high) :: ranges) count n (.ofNat (0x80 + m) :: bs) =
      readFollowing ranges (count + 1) (n * 64 + m) bs := by
  have hbyte : (UInt8.ofNat (0x80 + m)).toNat = 0x80 + m := by
    rw [UInt8.toNat_ofNat']
    omega
  have hrange : low ≤ .ofNat (0x80 + m) ∧ .ofNat (0x80 + m) ≤ high := by
    rw [UInt8.le_iff_toNat_le, UInt8.le_iff_toNat_le, hbyte]
    exact ⟨hlow, hhigh⟩
  rw [readFollowing, if_pos hrange, hbyte, show (0x80 + m) % 64 = m by omega]

/-- A further byte may hold any six bits, unless the first byte says otherwise. -/
lemma readFollowing_any {m : ℕ} (hm : m < 64) (ranges : List (UInt8 × UInt8)) (count n : ℕ)
    (bs : List UInt8) :
    readFollowing ((0x80, 0xBF) :: ranges) count n (.ofNat (0x80 + m) :: bs) =
      readFollowing ranges (count + 1) (n * 64 + m) bs := by
  have hhigh : (0xBF : UInt8).toNat = 0x80 + 63 := rfl
  exact readFollowing_cons hm (Nat.le_add_right _ m) (by omega) ranges count n bs

/-- **The bytes of a character are read as its number.** -/
lemma Layout.reads {n : ℕ} {bs : List UInt8} (h : Layout n bs) (hn : n < 0xD800 ∨ 0xDFFF < n)
    (rest : List UInt8) :
    ∃ first more ranges, bs = first :: more ∧ followRanges first = some ranges ∧
      readFollowing ranges 1 (firstBits first) (more ++ rest) = .ok (n, rest) := by
  cases h with
  | one high =>
    obtain ⟨hranges, hbits⟩ := followRanges_one n high
    exact ⟨_, _, _, rfl, hranges, by rw [hbits]; rfl⟩
  | two low high =>
    obtain ⟨hranges, hbits⟩ := followRanges_two (n / 64) (by omega) (by omega)
    refine ⟨_, _, _, rfl, hranges, ?_⟩
    rw [hbits, List.singleton_append, readFollowing_any (by omega),
      show n / 64 * 64 + n % 64 = n by omega]
    rfl
  | three low high =>
    obtain ⟨hranges, hbits⟩ := followRanges_three (n / 64 / 64) (by omega)
    refine ⟨_, _, _, rfl, hranges, ?_⟩
    -- the second byte is bounded where fewer bytes would do and where surrogates would be
    have hlow : (if n / 64 / 64 = 0 then 0xA0 else 0x80 : UInt8).toNat ≤ 0x80 + n / 64 % 64 := by
      split
      · simp only [UInt8.reduceToNat]
        omega
      · exact Nat.le_add_right 0x80 _
    have hhigh : 0x80 + n / 64 % 64 ≤ (if n / 64 / 64 = 13 then 0x9F else 0xBF : UInt8).toNat := by
      split
      · simp only [UInt8.reduceToNat]
        omega
      · simp only [UInt8.reduceToNat]
        omega
    rw [hbits, List.cons_append, List.singleton_append, readFollowing_cons (by omega) hlow hhigh,
      readFollowing_any (by omega),
      show (n / 64 / 64 * 64 + n / 64 % 64) * 64 + n % 64 = n by omega]
    rfl
  | four low high =>
    obtain ⟨hranges, hbits⟩ := followRanges_four (n / 64 / 64 / 64) (by omega)
    refine ⟨_, _, _, rfl, hranges, ?_⟩
    -- here it is bounded where fewer bytes would do and behind the last character
    have hlow : (if n / 64 / 64 / 64 = 0 then 0x90 else 0x80 : UInt8).toNat ≤
        0x80 + n / 64 / 64 % 64 := by
      split
      · simp only [UInt8.reduceToNat]
        omega
      · exact Nat.le_add_right 0x80 _
    have hhigh : 0x80 + n / 64 / 64 % 64 ≤
        (if n / 64 / 64 / 64 = 4 then 0x8F else 0xBF : UInt8).toNat := by
      split
      · simp only [UInt8.reduceToNat]
        omega
      · simp only [UInt8.reduceToNat]
        omega
    rw [hbits, List.cons_append, List.cons_append, List.singleton_append,
      readFollowing_cons (by omega) hlow hhigh, readFollowing_any (by omega),
      readFollowing_any (by omega),
      show ((n / 64 / 64 / 64 * 64 + n / 64 / 64 % 64) * 64 + n / 64 % 64) * 64 + n % 64 = n by
        omega]
    rfl

/-- A character is decoded, and then the rest. -/
lemma decodeFrom_encode_cons (c : Char) (bs : List UInt8) (fuel index : ℕ) :
    ∃ index', decodeFrom (fuel + 1) index (String.utf8EncodeChar c ++ bs) =
      (decodeFrom fuel index' bs).map (c :: ·) := by
  have hvalid := toNat_valid c
  obtain ⟨first, more, ranges, hbs, hranges, hread⟩ :=
    (layout_utf8EncodeChar c).reads (by omega) bs
  refine ⟨index + 1 + ranges.length, ?_⟩
  rw [hbs, List.cons_append, decodeFrom, hranges]
  simp only [hread, Char.ofNat_toNat]

/-- A text is decoded, given fuel for each of its characters. -/
lemma decodeFrom_encode (t : List Char) {fuel : ℕ} (hfuel : t.length ≤ fuel) (index : ℕ) :
    decodeFrom fuel index (encode t) = .ok t := by
  induction t generalizing fuel index with
  | nil => cases fuel <;> rfl
  | cons c t ih =>
    obtain ⟨fuel, rfl⟩ := Nat.exists_eq_add_one.2 (Nat.zero_lt_of_lt hfuel)
    obtain ⟨index', h⟩ := decodeFrom_encode_cons c (encode t) fuel index
    rw [encode_cons, h, ih (Nat.le_of_succ_le_succ hfuel)]
    rfl

lemma length_le_encode (t : List Char) : t.length ≤ (encode t).length := by
  induction t with
  | nil => exact Nat.le_refl 0
  | cons c t ih =>
    have hc := String.length_utf8EncodeChar c
    have hpos := c.utf8Size_pos
    rw [encode_cons, List.length_append, List.length_cons]
    omega

/-- **Bytes that encode a text are decoded to it.** -/
theorem decode_encode (t : List Char) : decode (encode t) = .ok t :=
  decodeFrom_encode t (length_le_encode t) 0

/-! ## Single bytes -/

/-- A number below 128 is its own byte. -/
lemma Layout.eq_of_lt {n : ℕ} {bs : List UInt8} (h : Layout n bs) (hn : n < 0x80) :
    bs = [.ofNat n] := by
  cases h with
  | one => rfl
  | two | three | four => omega

/-- The bytes of a number from 128 on are all from 128 on. -/
lemma Layout.le_of_mem {n : ℕ} {bs : List UInt8} (h : Layout n bs) (hn : 0x80 ≤ n) :
    ∀ b ∈ bs, 0x80 ≤ b.toNat := by
  cases h with
  | one => omega
  | two | three | four =>
    simp only [List.forall_mem_cons, List.not_mem_nil, false_imp_iff, implies_true, and_true,
      UInt8.toNat_ofNat']
    omega

/-- A byte below 128 stands for the character with its number. -/
lemma Layout.mem_lineFeed {n : ℕ} {bs : List UInt8} (h : Layout n bs) :
    (10 : UInt8) ∈ bs ↔ n = 10 := by
  cases h <;>
    simp only [List.mem_cons, List.not_mem_nil, or_false, ← UInt8.toNat_inj, UInt8.toNat_ofNat',
      UInt8.reduceToNat] <;> omega

/-- **The byte of the line feed stands for nothing else.** -/
theorem mem_encode_lineFeed {t : List Char} : (10 : UInt8) ∈ encode t ↔ '\n' ∈ t := by
  induction t with
  | nil => simp [encode]
  | cons c t ih =>
    have hc : c.toNat = 10 ↔ '\n' = c := by
      rw [eq_comm, ← Char.toNat_inj]
      rfl
    rw [encode_cons, List.mem_append, List.mem_cons, (layout_utf8EncodeChar c).mem_lineFeed, hc]
    exact or_congr_right ih

/-! ## Order -/

/-- Bytes are ordered by the first one, and by what follows if it is the same. -/
lemma ofNat_cons_lt (base : ℕ) {a b : ℕ} (hb : base + b < 256) {us vs : List UInt8}
    (h : a < b ∨ a = b ∧ us < vs) :
    UInt8.ofNat (base + a) :: us < UInt8.ofNat (base + b) :: vs := by
  rw [List.cons_lt_cons_iff]
  rcases h with h | ⟨rfl, h⟩
  · left
    rw [UInt8.lt_iff_toNat_lt, UInt8.toNat_ofNat', UInt8.toNat_ofNat']
    omega
  · exact .inr ⟨rfl, h⟩

/-- Numbers are ordered by all bits but the last six, and by these if the others are the same. -/
lemma sixBits_lt {n m : ℕ} {us vs : List UInt8} (h : n < m ∨ n = m ∧ us < vs) :
    n / 64 < m / 64 ∨ n / 64 = m / 64 ∧
      UInt8.ofNat (0x80 + n % 64) :: us < UInt8.ofNat (0x80 + m % 64) :: vs := by
  rcases h with h | ⟨rfl, h⟩
  · rcases Nat.lt_or_ge (n / 64) (m / 64) with hlt | hge
    · exact .inl hlt
    · exact .inr ⟨by omega, ofNat_cons_lt 0x80 (by omega) (.inl (by omega))⟩
  · exact .inr ⟨rfl, ofNat_cons_lt 0x80 (by omega) (.inr ⟨rfl, h⟩)⟩

/-- A smaller first byte decides. -/
lemma ofNat_cons_lt_of_lt {a b : ℕ} (hb : b < 256) (h : a < b) (us vs : List UInt8) :
    UInt8.ofNat a :: us < UInt8.ofNat b :: vs := by
  simpa only [Nat.zero_add] using ofNat_cons_lt 0 (a := a) (b := b) (by omega) (.inl h)

/-- **The order of characters is that of their bytes**, whatever follows. -/
lemma Layout.lt {n m : ℕ} {bs cs : List UInt8} (hn : Layout n bs) (hm : Layout m cs) (h : n < m)
    (us vs : List UInt8) : bs ++ us < cs ++ vs := by
  have hbits : n < m ∨ n = m ∧ us < vs := .inl h
  -- more bytes begin with a greater one; as many are compared six bits at a time
  cases hn with
  | one high =>
    cases hm with
    | one | two | three | four => exact ofNat_cons_lt_of_lt (by omega) (by omega) _ _
  | two low high =>
    cases hm with
    | one => omega
    | two => exact ofNat_cons_lt 0xC0 (by omega) (sixBits_lt hbits)
    | three | four => exact ofNat_cons_lt_of_lt (by omega) (by omega) _ _
  | three low high =>
    cases hm with
    | one | two => omega
    | three => exact ofNat_cons_lt 0xE0 (by omega) (sixBits_lt (sixBits_lt hbits))
    | four => exact ofNat_cons_lt_of_lt (by omega) (by omega) _ _
  | four low high =>
    cases hm with
    | one | two | three => omega
    | four => exact ofNat_cons_lt 0xF0 (by omega) (sixBits_lt (sixBits_lt (sixBits_lt hbits)))

/-- A smaller text has smaller bytes. -/
lemma encode_lt_encode {s t : List Char} (h : s < t) : encode s < encode t := by
  induction h with
  | @nil c t =>
    have hpos := c.utf8Size_pos
    rw [← String.length_utf8EncodeChar] at hpos
    obtain ⟨b, bs, hbs⟩ := List.exists_cons_of_length_pos hpos
    rw [encode_cons, hbs]
    exact .nil
  | @rel c s d t h =>
    rw [encode_cons, encode_cons]
    have hlt : c.toNat < d.toNat := h
    exact (layout_utf8EncodeChar c).lt (layout_utf8EncodeChar d) hlt _ _
  | @cons c s t _ ih =>
    rw [encode_cons, encode_cons]
    exact List.Lex.append_left _ ih _

/-- **The order of texts by characters is their order by bytes.** -/
theorem encode_lt_encode_iff {s t : List Char} : encode s < encode t ↔ s < t := by
  refine ⟨fun h => ?_, encode_lt_encode⟩
  by_contra hle
  rcases List.le_iff_lt_or_eq.1 (List.not_lt.1 hle) with hlt | rfl
  · exact List.lt_asymm h (encode_lt_encode hlt)
  · exact List.lt_irrefl _ h

/-- **The order of strings is the order of their bytes.** -/
theorem toUTF8_lt_iff {a b : String} : a.toUTF8.toList < b.toUTF8.toList ↔ a < b := by
  rw [String.lt_iff_toList_lt, ← encode_lt_encode_iff]
  rw [toList_toUTF8, toList_toUTF8]

end ScriptStage.Text
