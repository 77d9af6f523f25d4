import FileSieve.Text.Utf8
import FileSieve.Proofs.Result
import Mathlib.Data.List.Basic

/-!
# What UTF-8 encodes

Reading octets and writing a text are each other's inverse: octets are read as a text exactly when the text can be
encoded and they are what it is written as (`decode_eq_ok_iff`). So octets that are read fall into those of one code
point after the other. The first octet of a code point is none that continues an encoding and all others are, by which
the places between code points can be told from those within one (`isWithin_offsetOf`, `exists_offsetOf`), and the octets
up to a place between code points are read as the code points before it (`decode_take_offsetOf`).
-/

namespace FileSieve.Utf8

/-! ### One code point -/

theorem toNat_octet {n : Nat} (h : n < 0x100) : (octet n).toNat = n :=
  UInt8.toNat_ofNat_of_lt' h

theorem octet_eq_iff {n : Nat} (h : n < 0x100) {a : UInt8} : octet n = a ↔ n = a.toNat := by
  rw [← UInt8.toNat_inj, toNat_octet h]

theorem isTail_iff {b : UInt8} : isTail b = true ↔ 0x80 ≤ b.toNat ∧ b.toNat ≤ 0xBF := by
  simp [isTail]

theorem isTail_octet {n : Nat} (h : n < 0x40) : isTail (octet (0x80 + n)) = true := by
  rw [isTail_iff, toNat_octet (by omega)]
  omega

theorem val_ofNat {n : Nat} (h : n < 0x110000) : (CodePoint.ofNat n).val = n := by
  simp [CodePoint.ofNat, h]

/-- The first octet of a code point continues no encoding, and all others do. -/
theorem encodePoint_cons (c : CodePoint) :
    ∃ a tails, encodePoint c = a :: tails ∧ isTail a = false ∧ ∀ b ∈ tails, isTail b = true := by
  have hlast := c.isLt
  have hlead {n : Nat} (hlow : n < 0x80 ∨ 0xC0 ≤ n) (hn : n < 0x100) : isTail (octet n) = false := by
    rw [Bool.eq_false_iff, Ne, isTail_iff, toNat_octet hn]
    omega
  have htail (n : Nat) : isTail (octet (0x80 + n % 0x40)) = true := isTail_octet (Nat.mod_lt _ (by decide))
  simp only [encodePoint]
  split_ifs with h1 h2 h3
  · exact ⟨_, _, rfl, hlead (.inl h1) (by omega), by simp⟩
  · exact ⟨_, _, rfl, hlead (.inr (by omega)) (by omega), by simp [htail]⟩
  · exact ⟨_, _, rfl, hlead (.inr (by omega)) (by omega), by simp [htail]⟩
  · exact ⟨_, _, rfl, hlead (.inr (by omega)) (by omega), by simp [htail]⟩

/-! ### Reading one code point -/

variable {a b c d : UInt8} {i : Nat} {rest : Octets}

theorem isSecond_iff : isSecond a b = true ↔ isTail b = true ∧ (a.toNat = 0xE0 → 0xA0 ≤ b.toNat) ∧
    (a.toNat = 0xED → b.toNat < 0xA0) ∧ (a.toNat = 0xF0 → 0x90 ≤ b.toNat) ∧ (a.toNat = 0xF4 → b.toNat < 0x90) := by
  simp [isSecond, imp_iff_not_or, and_assoc]

theorem decodeFrom_one (ha : a.toNat < 0x80) :
    decodeFrom i (a :: rest) = (decodeFrom (i + 1) rest).map (CodePoint.ofNat a.toNat :: ·) := by
  rw [decodeFrom.eq_def]
  simp [ha]

theorem decodeFrom_two (ha : 0xC2 ≤ a.toNat ∧ a.toNat < 0xE0) (hb : isTail b = true) :
    decodeFrom i (a :: b :: rest) = (decodeFrom (i + 2) rest).map (assemble (a.toNat - 0xC0) [b] :: ·) := by
  have h1 : ¬a.toNat < 0x80 := by omega
  have h2 : ¬a.toNat < 0xC2 := by omega
  simp [decodeFrom, h1, h2, ha.2, hb]

theorem decodeFrom_three (ha : 0xE0 ≤ a.toNat ∧ a.toNat < 0xF0) (hb : isSecond a b = true) (hc : isTail c = true) :
    decodeFrom i (a :: b :: c :: rest) = (decodeFrom (i + 3) rest).map (assemble (a.toNat - 0xE0) [b, c] :: ·) := by
  have h1 : ¬a.toNat < 0x80 := by omega
  have h2 : ¬a.toNat < 0xC2 := by omega
  have h3 : ¬a.toNat < 0xE0 := by omega
  simp [decodeFrom, h1, h2, h3, ha.2, hb, hc]

theorem decodeFrom_four (ha : 0xF0 ≤ a.toNat ∧ a.toNat < 0xF5) (hb : isSecond a b = true) (hc : isTail c = true)
    (hd : isTail d = true) :
    decodeFrom i (a :: b :: c :: d :: rest) =
      (decodeFrom (i + 4) rest).map (assemble (a.toNat - 0xF0) [b, c, d] :: ·) := by
  have h1 : ¬a.toNat < 0x80 := by omega
  have h2 : ¬a.toNat < 0xC2 := by omega
  have h3 : ¬a.toNat < 0xE0 := by omega
  have h4 : ¬a.toNat < 0xF0 := by omega
  simp [decodeFrom, h1, h2, h3, h4, ha.2, hb, hc, hd]

theorem val_assemble {lead n : Nat} {tails : List UInt8} (h : tails.foldl (fun n b => n * 0x40 + (b.toNat - 0x80)) lead = n)
    (hn : n < 0x110000) : (assemble lead tails).val = n := by
  rw [assemble, h, val_ofNat hn]

theorem isSurrogate_iff {c : CodePoint} : c.isSurrogate = true ↔ 0xD800 ≤ c.val ∧ c.val ≤ 0xDFFF := by
  simp [CodePoint.isSurrogate]

/-- What a code point is written as is read as that code point. -/
theorem decodeFrom_encodePoint {c : CodePoint} (hc : c.isSurrogate = false) :
    decodeFrom i (encodePoint c ++ rest) = (decodeFrom (i + (encodePoint c).length) rest).map (c :: ·) := by
  have hlast := c.isLt
  rw [Bool.eq_false_iff, Ne, isSurrogate_iff] at hc
  have htail (n : Nat) : isTail (octet (0x80 + n % 0x40)) = true := isTail_octet (Nat.mod_lt _ (by decide))
  have hoctet (n : Nat) : (octet (0x80 + n % 0x40)).toNat = 0x80 + n % 0x40 := toNat_octet (by omega)
  simp only [encodePoint]
  split_ifs with h1 h2 h3
  · have ha : (octet c.val).toNat = c.val := toNat_octet (by omega)
    have hval : CodePoint.ofNat (octet c.val).toNat = c := by rw [ha]; exact Fin.ext (val_ofNat hlast)
    rw [List.singleton_append, decodeFrom_one (by omega), hval]
    rfl
  · have ha : (octet (0xC0 + c.val / 0x40)).toNat = 0xC0 + c.val / 0x40 := toNat_octet (by omega)
    have hval : assemble ((octet (0xC0 + c.val / 0x40)).toNat - 0xC0) [octet (0x80 + c.val % 0x40)] = c := by
      refine Fin.ext (val_assemble ?_ hlast)
      simp only [List.foldl_cons, List.foldl_nil, ha, hoctet]
      omega
    exact (decodeFrom_two (by omega) (htail _)).trans (by rw [hval]; rfl)
  · have ha : (octet (0xE0 + c.val / 0x1000)).toNat = 0xE0 + c.val / 0x1000 := toNat_octet (by omega)
    have hval : assemble ((octet (0xE0 + c.val / 0x1000)).toNat - 0xE0)
        [octet (0x80 + c.val / 0x40 % 0x40), octet (0x80 + c.val % 0x40)] = c := by
      refine Fin.ext (val_assemble ?_ hlast)
      simp only [List.foldl_cons, List.foldl_nil, ha, hoctet]
      omega
    have hsecond : isSecond (octet (0xE0 + c.val / 0x1000)) (octet (0x80 + c.val / 0x40 % 0x40)) = true := by
      rw [isSecond_iff, ha, hoctet]
      exact ⟨htail _, by omega, by omega, by omega, by omega⟩
    exact (decodeFrom_three (by omega) hsecond (htail _)).trans (by rw [hval]; rfl)
  · have ha : (octet (0xF0 + c.val / 0x40000)).toNat = 0xF0 + c.val / 0x40000 := toNat_octet (by omega)
    have hval : assemble ((octet (0xF0 + c.val / 0x40000)).toNat - 0xF0)
        [octet (0x80 + c.val / 0x1000 % 0x40), octet (0x80 + c.val / 0x40 % 0x40), octet (0x80 + c.val % 0x40)] = c := by
      refine Fin.ext (val_assemble ?_ hlast)
      simp only [List.foldl_cons, List.foldl_nil, ha, hoctet]
      omega
    have hsecond : isSecond (octet (0xF0 + c.val / 0x40000)) (octet (0x80 + c.val / 0x1000 % 0x40)) = true := by
      rw [isSecond_iff, ha, hoctet]
      exact ⟨htail _, by omega, by omega, by omega, by omega⟩
    exact (decodeFrom_four (by omega) hsecond (htail _) (htail _)).trans (by rw [hval]; rfl)

/-! ### What has been read -/

theorem encodePoint_one (ha : a.toNat < 0x80) : encodePoint (CodePoint.ofNat a.toNat) = [a] ∧
    (CodePoint.ofNat a.toNat).isSurrogate = false := by
  have hval : (CodePoint.ofNat a.toNat).val = a.toNat := val_ofNat (by omega)
  rw [Bool.eq_false_iff, Ne, isSurrogate_iff, encodePoint, hval, if_pos ha, octet, UInt8.ofNat_toNat]
  exact ⟨rfl, by omega⟩

theorem encodePoint_two (ha : 0xC2 ≤ a.toNat ∧ a.toNat < 0xE0) (hb : isTail b = true) :
    encodePoint (assemble (a.toNat - 0xC0) [b]) = [a, b] ∧ (assemble (a.toNat - 0xC0) [b]).isSurrogate = false := by
  rw [isTail_iff] at hb
  have hval : (assemble (a.toNat - 0xC0) [b]).val = (a.toNat - 0xC0) * 0x40 + (b.toNat - 0x80) :=
    val_assemble rfl (by omega)
  have h1 : ¬(assemble (a.toNat - 0xC0) [b]).val < 0x80 := by omega
  have h2 : (assemble (a.toNat - 0xC0) [b]).val < 0x800 := by omega
  rw [Bool.eq_false_iff, Ne, isSurrogate_iff, encodePoint, if_neg h1, if_pos h2, List.cons.injEq, List.cons.injEq,
    octet_eq_iff (by omega), octet_eq_iff (by omega)]
  exact ⟨⟨by omega, by omega, rfl⟩, by omega⟩

theorem encodePoint_three (ha : 0xE0 ≤ a.toNat ∧ a.toNat < 0xF0) (hb : isSecond a b = true) (hc : isTail c = true) :
    encodePoint (assemble (a.toNat - 0xE0) [b, c]) = [a, b, c] ∧
      (assemble (a.toNat - 0xE0) [b, c]).isSurrogate = false := by
  rw [isSecond_iff, isTail_iff] at hb
  rw [isTail_iff] at hc
  have hval : (assemble (a.toNat - 0xE0) [b, c]).val =
      ((a.toNat - 0xE0) * 0x40 + (b.toNat - 0x80)) * 0x40 + (c.toNat - 0x80) := val_assemble rfl (by omega)
  have h1 : ¬(assemble (a.toNat - 0xE0) [b, c]).val < 0x80 := by omega
  have h2 : ¬(assemble (a.toNat - 0xE0) [b, c]).val < 0x800 := by omega
  have h3 : (assemble (a.toNat - 0xE0) [b, c]).val < 0x10000 := by omega
  rw [Bool.eq_false_iff, Ne, isSurrogate_iff, encodePoint, if_neg h1, if_neg h2, if_pos h3, List.cons.injEq,
    List.cons.injEq, List.cons.injEq, octet_eq_iff (by omega), octet_eq_iff (by omega), octet_eq_iff (by omega)]
  exact ⟨⟨by omega, by omega, by omega, rfl⟩, by omega⟩

theorem encodePoint_four (ha : 0xF0 ≤ a.toNat ∧ a.toNat < 0xF5) (hb : isSecond a b = true) (hc : isTail c = true)
    (hd : isTail d = true) :
    encodePoint (assemble (a.toNat - 0xF0) [b, c, d]) = [a, b, c, d] ∧
      (assemble (a.toNat - 0xF0) [b, c, d]).isSurrogate = false := by
  rw [isSecond_iff, isTail_iff] at hb
  rw [isTail_iff] at hc hd
  have hval : (assemble (a.toNat - 0xF0) [b, c, d]).val =
      (((a.toNat - 0xF0) * 0x40 + (b.toNat - 0x80)) * 0x40 + (c.toNat - 0x80)) * 0x40 + (d.toNat - 0x80) :=
    val_assemble rfl (by omega)
  have h1 : ¬(assemble (a.toNat - 0xF0) [b, c, d]).val < 0x80 := by omega
  have h2 : ¬(assemble (a.toNat - 0xF0) [b, c, d]).val < 0x800 := by omega
  have h3 : ¬(assemble (a.toNat - 0xF0) [b, c, d]).val < 0x10000 := by omega
  rw [Bool.eq_false_iff, Ne, isSurrogate_iff, encodePoint, if_neg h1, if_neg h2, if_neg h3, List.cons.injEq,
    List.cons.injEq, List.cons.injEq, List.cons.injEq, octet_eq_iff (by omega), octet_eq_iff (by omega),
    octet_eq_iff (by omega), octet_eq_iff (by omega)]
  exact ⟨⟨by omega, by omega, by omega, by omega, rfl⟩, by omega⟩

/-! ### Texts -/

@[simp] theorem encode_nil : encode [] = [] := rfl

@[simp] theorem encode_cons (c : CodePoint) (t : Text) : encode (c :: t) = encodePoint c ++ encode t := rfl

@[simp] theorem encode_append (s t : Text) : encode (s ++ t) = encode s ++ encode t := by
  simp [encode]

@[simp] theorem encodable_cons (c : CodePoint) (t : Text) :
    encodable (c :: t) = true ↔ c.isSurrogate = false ∧ encodable t = true := by
  simp [encodable]

theorem decodeFrom_encode {t : Text} (h : encodable t = true) (i : Nat) : decodeFrom i (encode t) = .ok t := by
  induction t generalizing i with
  | nil => rfl
  | cons c t ih =>
    rw [encodable_cons] at h
    rw [encode_cons, decodeFrom_encodePoint h.1, ih h.2]
    rfl

/-- A text that begins with a code point, from what is read behind the octets of it. -/
theorem encode_of_map {c : CodePoint} {front b : Octets} {i : Nat} {t : Text}
    (hc : encodePoint c = front ∧ c.isSurrogate = false)
    (ih : ∀ t, decodeFrom i b = .ok t → encodable t = true ∧ encode t = b)
    (h : (decodeFrom i b).map (c :: ·) = .ok t) : encodable t = true ∧ encode t = front ++ b := by
  obtain ⟨u, hu, rfl⟩ := map_eq_ok.mp h
  obtain ⟨hencodable, hencode⟩ := ih u hu
  rw [encodable_cons, encode_cons, hc.1, hencode]
  exact ⟨⟨hc.2, hencodable⟩, rfl⟩

/-- Octets that are read are what the text is written as. -/
theorem encode_of_decodeFrom {b : Octets} {i : Nat} {t : Text} (h : decodeFrom i b = .ok t) :
    encodable t = true ∧ encode t = b := by
  fun_induction decodeFrom i b generalizing t with
  | case1 =>
    obtain rfl := Except.ok.inj h
    exact ⟨rfl, rfl⟩
  | case2 i a rest _ ha =>
    rename_i ih
    exact encode_of_map (encodePoint_one ha) (fun _ => ih) h
  | case5 i a _ h1 h2 h3 b rest hb =>
    rename_i ih
    exact encode_of_map (encodePoint_two (by omega) hb) (fun _ => ih) h
  | case12 i a _ h1 h2 h3 h4 b c rest hb hc =>
    rename_i ih
    exact encode_of_map (encodePoint_three (by omega) (by simpa using hb) (by simpa using hc)) (fun _ => ih) h
  | case22 i a _ h1 h2 h3 h4 h5 b c d rest hb hc hd =>
    rename_i ih
    exact encode_of_map (encodePoint_four (by omega) (by simpa using hb) (by simpa using hc) (by simpa using hd))
      (fun _ => ih) h
  | _ => cases h

/-- Octets are read as a text exactly when the text can be encoded and they are what it is written as. -/
theorem decode_eq_ok_iff {b : Octets} {t : Text} : decode b = .ok t ↔ encodable t = true ∧ encode t = b := by
  constructor
  · exact encode_of_decodeFrom
  · rintro ⟨h, rfl⟩
    exact decodeFrom_encode h 0

/-- What no text is written as is not read. -/
theorem exists_fault {b : Octets} (h : ∀ t, encodable t = true → encode t ≠ b) : ∃ fault, decode b = .error fault := by
  cases hd : decode b with
  | error fault => exact ⟨fault, rfl⟩
  | ok t => exact absurd (decode_eq_ok_iff.mp hd).2 (h t (decode_eq_ok_iff.mp hd).1)

/-! ### Places between code points -/

/-- The number of octets of the first `k` code points. -/
def offsetOf (t : Text) (k : Nat) : Nat :=
  (encode (t.take k)).length

/-- Whether an octet that continues an encoding stands at a place. -/
def isWithin (b : Octets) (o : Nat) : Bool :=
  (b[o]?.map isTail).getD false

theorem take_offsetOf (t : Text) (k : Nat) : (encode t).take (offsetOf t k) = encode (t.take k) := by
  have h : encode t = encode (t.take k) ++ encode (t.drop k) := by rw [← encode_append, List.take_append_drop]
  rw [h, offsetOf, List.take_left]

theorem offsetOf_le (t : Text) (k : Nat) : offsetOf t k ≤ (encode t).length := by
  have h := congrArg List.length (take_offsetOf t k)
  rw [List.length_take, ← offsetOf] at h
  omega

/-- The place behind some code points is not within one. -/
theorem isWithin_offsetOf (t : Text) (k : Nat) : isWithin (encode t) (offsetOf t k) = false := by
  have h : encode t = encode (t.take k) ++ encode (t.drop k) := by rw [← encode_append, List.take_append_drop]
  rw [isWithin, h, offsetOf, List.getElem?_append_right (Nat.le_refl _), Nat.sub_self]
  cases t.drop k with
  | nil => rfl
  | cons c rest =>
    obtain ⟨a, tails, hc, ha, -⟩ := encodePoint_cons c
    simp [hc, ha]

/-- A place that is not within a code point is behind some code points. -/
theorem exists_offsetOf {t : Text} {o : Nat} (ho : o ≤ (encode t).length) (h : isWithin (encode t) o = false) :
    ∃ k ≤ t.length, o = offsetOf t k := by
  induction t generalizing o with
  | nil =>
    obtain rfl : o = 0 := by simpa using ho
    exact ⟨0, Nat.le_refl _, rfl⟩
  | cons c t ih =>
    obtain ⟨a, tails, hc, ha, htails⟩ := encodePoint_cons c
    rcases Nat.lt_or_ge o (encodePoint c).length with hlt | hge
    · -- within the first code point only its first octet continues no encoding
      cases o with
      | zero => exact ⟨0, Nat.zero_le _, rfl⟩
      | succ o =>
        rw [isWithin, encode_cons, List.getElem?_append_left hlt, List.getElem?_eq_getElem hlt] at h
        simp only [hc, List.getElem_cons_succ, Option.map_some, Option.getD_some] at h
        exact absurd (h.symm.trans (htails _ (List.getElem_mem _))) Bool.false_ne_true
    · rw [encode_cons, List.length_append] at ho
      rw [isWithin, encode_cons, List.getElem?_append_right hge] at h
      obtain ⟨k, hk, hok⟩ := ih (by omega) h
      refine ⟨k + 1, Nat.succ_le_succ hk, ?_⟩
      rw [offsetOf] at hok ⊢
      rw [List.take_succ_cons, encode_cons, List.length_append]
      omega

/-- Up to a place between two code points octets are read as the code points before it. -/
theorem decode_take_offsetOf {t : Text} (ht : encodable t = true) (k : Nat) :
    decode ((encode t).take (offsetOf t k)) = .ok (t.take k) := by
  have hfront : encodable (t.take k) = true := by
    rw [encodable, List.all_eq_true] at ht ⊢
    exact fun c hc => ht c (List.mem_of_mem_take hc)
  exact decode_eq_ok_iff.mpr ⟨hfront, (take_offsetOf t k).symm⟩

end FileSieve.Utf8
