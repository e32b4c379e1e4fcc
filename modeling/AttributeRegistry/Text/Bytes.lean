/-!
# Texts as bytes

A text is stored as bytes, and stored texts are compared by these.  Of texts in which each character
is a single byte (`Plain`) that is the comparison by characters (`compareBytes_eq`).
-/

namespace AttributeRegistry.Text

/-- The bytes of a text. -/
def bytes (s : String) : List UInt8 := s.toByteArray.data.toList

/-- Compares two texts byte by byte; a text comes before all longer ones that begin with it. -/
def compareBytes (s t : String) : Ordering := compare (bytes s) (bytes t)

/-- Each character of the text is a single byte. -/
def Plain (s : String) : Prop := ∀ c ∈ s.toList, c.toNat < 128

theorem bytes_eq_flatMap (s : String) : bytes s = s.toList.flatMap String.utf8EncodeChar := by
  rw [bytes, ← String.utf8Encode_toList, List.utf8Encode, List.data_toByteArray]

theorem bytes_of_plain {s : String} (h : Plain s) :
    bytes s = s.toList.map fun c => c.val.toUInt8 := by
  have hsingle : ∀ c ∈ s.toList, String.utf8EncodeChar c = [c.val.toUInt8] := fun c hc => by
    refine String.utf8EncodeChar_eq_singleton (Char.utf8Size_eq_one_iff.2 ?_)
    exact UInt32.le_iff_toNat_le.2 (Nat.le_of_lt_succ (h c hc))
  rw [bytes_eq_flatMap, List.map_eq_flatMap, List.flatMap_def, List.flatMap_def,
    List.map_congr_left hsingle]

/-- Lists compare as they did after a change of their members that keeps how these compare. -/
theorem compare_map {α β : Type} [Ord α] [Ord β] {f : α → β} {l l' : List α}
    (h : ∀ a ∈ l, ∀ b ∈ l', compare (f a) (f b) = compare a b) :
    compare (l.map f) (l'.map f) = compare l l' := by
  induction l generalizing l' with
  | nil => cases l' <;> rfl
  | cons a l ih =>
      cases l' with
      | nil => rfl
      | cons b l' =>
          have hhead := h a List.mem_cons_self b List.mem_cons_self
          have htail := ih fun x hx y hy => h x (List.mem_cons_of_mem a hx) y (List.mem_cons_of_mem b hy)
          rw [List.map_cons, List.map_cons, List.compare_cons_cons, List.compare_cons_cons, hhead, htail]

/-- Texts compare as their lists of characters. -/
theorem compare_toList (s t : String) : compare s.toList t.toList = compare s t := by
  have hlists (l l' : List Char) : compare l l' = compareOfLessAndEq l l' := by
    induction l generalizing l' with
    | nil => cases l' <;> simp [compareOfLessAndEq]
    | cons a l ih =>
        cases l' with
        | nil => simp [compareOfLessAndEq]
        | cons b l' =>
            have hhead : compare a b = compareOfLessAndEq a b := rfl
            simp only [List.compare_cons_cons, ih, hhead, compareOfLessAndEq, List.cons_lt_cons_iff,
              List.cons.injEq]
            by_cases heq : a = b
            · simp [heq]
            · by_cases hlt : a < b <;> simp [heq, hlt]
  have htexts : compare s t = compareOfLessAndEq s t := rfl
  rw [hlists, htexts]
  simp only [compareOfLessAndEq, String.toList_inj]
  rfl

theorem toNat_toUInt8 {c : Char} (h : c.toNat < 128) : c.val.toUInt8.toNat = c.toNat := by
  rw [UInt32.toNat_toUInt8]
  exact Nat.mod_eq_of_lt (Nat.lt_of_lt_of_le h (by decide))

/-- Single bytes compare as the characters that they stand for. -/
theorem compare_toUInt8 {a b : Char} (ha : a.toNat < 128) (hb : b.toNat < 128) :
    compare a.val.toUInt8 b.val.toUInt8 = compare a b := by
  have hbytes : compare a.val.toUInt8 b.val.toUInt8 =
      compareOfLessAndEq a.val.toUInt8 b.val.toUInt8 := rfl
  have hchars : compare a b = compareOfLessAndEq a b := rfl
  rw [hbytes, hchars]
  simp only [compareOfLessAndEq, UInt8.lt_iff_toNat_lt, ← UInt8.toNat_inj, toNat_toUInt8 ha,
    toNat_toUInt8 hb, Char.lt_def, UInt32.lt_iff_toNat_lt, Char.toNat_inj]
  rfl

/-- Where no character takes more than a byte, the order of bytes is that of characters. -/
theorem compareBytes_eq {s t : String} (hs : Plain s) (ht : Plain t) :
    compareBytes s t = compare s t := by
  rw [compareBytes, bytes_of_plain hs, bytes_of_plain ht, ← compare_toList]
  exact compare_map fun a ha b hb => compare_toUInt8 (hs a ha) (ht b hb)

end AttributeRegistry.Text
