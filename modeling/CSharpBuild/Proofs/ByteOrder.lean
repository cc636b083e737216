/-
The order of texts is the order of their bytes. Texts compare by code point; a host that keeps its
texts as UTF-8 compares them byte by byte. `Utf8.encode_lt_encode_iff` says that the two orders are
one, so a listing that is sorted by code point is sorted for such a host too.

What carries it is `Utf8.encodeChar_lt`: of two different scalar values the smaller has the smaller
bytes, whatever comes behind them. Neither encoding begins the other, and a longer one has a greater
first byte.
-/
import CSharpBuild.Text.Utf8

namespace CSharpBuild.Text.Utf8

private theorem toList_loop (front back seen : List UInt8) :
    ByteArray.toList.loop ⟨(front ++ back).toArray⟩ front.length seen = seen.reverse ++ back := by
  induction back generalizing front seen with
  | nil => rw [ByteArray.toList.loop, if_neg (by simp [ByteArray.size])]; simp
  | cons byte back ih =>
    have hlt : front.length < (ByteArray.mk (front ++ byte :: back).toArray).size := by
      simp [ByteArray.size]
    rw [ByteArray.toList.loop, if_pos hlt]
    simpa [ByteArray.get!] using ih (front ++ [byte]) (byte :: seen)

/-- A text is encoded one scalar value after the other. -/
theorem encode_eq_flatMap (text : String) :
    encode text = text.toList.flatMap String.utf8EncodeChar := by
  have h : text.toUTF8 = ⟨(text.toList.flatMap String.utf8EncodeChar).toArray⟩ := by
    rw [String.toUTF8_eq_toByteArray, ← String.utf8Encode_toList]
    apply ByteArray.ext
    simp [List.utf8Encode]
  rw [encode, h]
  exact toList_loop [] _ []

/-- The first byte decides, or what is behind it. -/
theorem ofNat_cons_lt {a b : Nat} {as bs : List UInt8} (hb : b < 256)
    (h : a < b ∨ a = b ∧ as < bs) : UInt8.ofNat a :: as < UInt8.ofNat b :: bs := by
  rw [List.cons_lt_cons_iff]
  obtain h | ⟨rfl, h⟩ := h
  · refine .inl ?_
    rw [UInt8.lt_iff_toNat_lt, UInt8.toNat_ofNat', UInt8.toNat_ofNat']
    omega
  · exact .inr ⟨rfl, h⟩

theorem follower_lt {m n : Nat} (h : m % 64 < n % 64) (cs ds : List UInt8) :
    UInt8.ofNat (m % 64 + 128) :: cs < UInt8.ofNat (n % 64 + 128) :: ds :=
  ofNat_cons_lt (by omega) (.inl (by omega))

theorem two_followers_lt {m n : Nat} (h : m % 4096 < n % 4096) (cs ds : List UInt8) :
    UInt8.ofNat (m / 64 % 64 + 128) :: UInt8.ofNat (m % 64 + 128) :: cs <
      UInt8.ofNat (n / 64 % 64 + 128) :: UInt8.ofNat (n % 64 + 128) :: ds := by
  have hd : m / 64 % 64 < n / 64 % 64 ∨ m / 64 % 64 = n / 64 % 64 ∧ m % 64 < n % 64 := by omega
  refine ofNat_cons_lt (by omega) (hd.imp (by omega) fun ⟨he, hl⟩ => ?_)
  exact ⟨by omega, follower_lt hl cs ds⟩

theorem three_followers_lt {m n : Nat} (h : m % 262144 < n % 262144) (cs ds : List UInt8) :
    UInt8.ofNat (m / 4096 % 64 + 128) :: UInt8.ofNat (m / 64 % 64 + 128) ::
        UInt8.ofNat (m % 64 + 128) :: cs <
      UInt8.ofNat (n / 4096 % 64 + 128) :: UInt8.ofNat (n / 64 % 64 + 128) ::
        UInt8.ofNat (n % 64 + 128) :: ds := by
  have hd : m / 4096 % 64 < n / 4096 % 64 ∨
      m / 4096 % 64 = n / 4096 % 64 ∧ m % 4096 < n % 4096 := by omega
  refine ofNat_cons_lt (by omega) (hd.imp (by omega) fun ⟨he, hl⟩ => ?_)
  exact ⟨by omega, two_followers_lt hl cs ds⟩

/-- **The order of two scalar values shows in their bytes**, whatever comes behind them. -/
theorem encodeChar_lt {c d : Char} (h : c < d) (cs ds : List UInt8) :
    String.utf8EncodeChar c ++ cs < String.utf8EncodeChar d ++ ds := by
  have hcd : c.val.toNat < d.val.toNat := h
  have hd : d.val.toNat < 0x110000 := by
    have := d.valid
    grind
  unfold String.utf8EncodeChar
  generalize c.val.toNat = m at *
  generalize d.val.toNat = n at *
  dsimp only
  repeat' split
  -- A smaller value has no more bytes, and with fewer its first byte is smaller.
  all_goals first
    | omega
    | exact ofNat_cons_lt (by omega) (.inl (by omega))
    | skip
  · -- two bytes each
    obtain hl | ⟨he, hl⟩ : m / 64 < n / 64 ∨ m / 64 = n / 64 ∧ m % 64 < n % 64 := by omega
    · exact ofNat_cons_lt (by omega) (.inl (by omega))
    · exact ofNat_cons_lt (by omega) (.inr ⟨by omega, follower_lt hl cs ds⟩)
  · -- three bytes each
    obtain hl | ⟨he, hl⟩ : m / 4096 < n / 4096 ∨
        m / 4096 = n / 4096 ∧ m % 4096 < n % 4096 := by omega
    · exact ofNat_cons_lt (by omega) (.inl (by omega))
    · exact ofNat_cons_lt (by omega) (.inr ⟨by omega, two_followers_lt hl cs ds⟩)
  · -- four bytes each
    obtain hl | ⟨he, hl⟩ : m / 262144 < n / 262144 ∨
        m / 262144 = n / 262144 ∧ m % 262144 < n % 262144 := by omega
    · exact ofNat_cons_lt (by omega) (.inl (by omega))
    · exact ofNat_cons_lt (by omega) (.inr ⟨by omega, three_followers_lt hl cs ds⟩)

theorem flatMap_encodeChar_lt {as bs : List Char} (h : as < bs) :
    as.flatMap String.utf8EncodeChar < bs.flatMap String.utf8EncodeChar := by
  induction as generalizing bs with
  | nil =>
    cases bs with
    | nil => exact absurd h (List.lt_irrefl [])
    | cons b bs =>
      rw [List.flatMap_nil, List.flatMap_cons]
      obtain ⟨byte, rest, hb⟩ := List.exists_cons_of_ne_nil (String.utf8EncodeChar_ne_nil (c := b))
      rw [hb]
      exact List.nil_lt_cons ..
  | cons a as ih =>
    cases bs with
    | nil => exact absurd h (List.not_lt_nil _)
    | cons b bs =>
      rw [List.flatMap_cons, List.flatMap_cons]
      obtain hl | ⟨rfl, hl⟩ := List.cons_lt_cons_iff.1 h
      · exact encodeChar_lt hl _ _
      · exact List.append_left_lt (ih hl)

/-- **Texts are in the order of their bytes.** -/
theorem encode_lt_encode_iff {a b : String} : encode a < encode b ↔ a < b := by
  have mono {a b : String} (h : a < b) : encode a < encode b := by
    rw [encode_eq_flatMap, encode_eq_flatMap]
    exact flatMap_encodeChar_lt (String.lt_iff.1 h)
  refine ⟨fun h => ?_, mono⟩
  obtain hl | rfl | hl := Std.lt_trichotomy a b
  · exact hl
  · exact absurd h (List.lt_irrefl _)
  · exact absurd h (List.lt_asymm (mono hl))

end CSharpBuild.Text.Utf8
