import Mathlib.Data.String.Basic
import AttributeRegistry.Proofs.Identifier.Comparison

/-!
# The order of texts

Comparing the texts of two identifiers is almost comparing the identifiers.  It differs where one
namespace ends and the other goes on: there the colon of the one meets a character of the other, and the
colon stands between the digits and the letters.  So the two orders disagree on exactly the pairs in which
the longer namespace goes on with a hyphen, a dot or a digit (`compare_text_exact`).
-/

namespace AttributeRegistry

open Text (compareBytes)

/-! ## Around the colon -/

/-- A character of the namespace alphabet that stands below the colon. -/
def BelowColon (c : Char) : Prop := c = '-' ∨ c = '.' ∨ ('0' ≤ c ∧ c ≤ '9')

theorem lt_colon_of_belowColon {c : Char} (h : BelowColon c) : c < ':' := by
  rcases h with rfl | rfl | ⟨-, hnine⟩
  · decide
  · decide
  · exact lt_of_le_of_lt hnine (by decide)

/-- All others of that alphabet stand above it. -/
theorem belowColon_or_colon_lt {c : Char} (h : NamespaceLetter c) : BelowColon c ∨ ':' < c := by
  rcases h with ⟨ha, -⟩ | hdigit | hmark
  · exact .inr (lt_of_lt_of_le (by decide) ha)
  · exact .inl (.inr (.inr hdigit))
  · simp only [List.mem_cons, List.not_mem_nil, or_false] at hmark
    rcases hmark with rfl | rfl | rfl
    · exact .inr (by decide)
    · exact .inl (.inr (.inl rfl))
    · exact .inl (.inl rfl)

/-! ## Joined lists -/

/-- The list `ys` is `xs` and more, and goes on with a character below the colon. -/
def Outruns (ys xs : List Char) : Prop := ∃ c rest, ys = xs ++ c :: rest ∧ BelowColon c

theorem outruns_cons_iff {x y : Char} {xs ys : List Char} :
    Outruns (y :: ys) (x :: xs) ↔ y = x ∧ Outruns ys xs := by
  simp [Outruns, and_assoc]

theorem outruns_nil_iff {y : Char} {ys : List Char} : Outruns (y :: ys) [] ↔ BelowColon y := by
  simp [Outruns]

theorem not_outruns_nil {xs : List Char} : ¬ Outruns [] xs := by
  simp [Outruns]

theorem Outruns.asymm {xs ys : List Char} (h : Outruns ys xs) : ¬ Outruns xs ys := by
  obtain ⟨c, rest, hys, -⟩ := h
  rintro ⟨d, more, hxs, -⟩
  have hlonger := congrArg List.length hys
  have hshorter := congrArg List.length hxs
  simp only [List.length_append, List.length_cons] at hlonger hshorter
  omega

/-- How the comparison of joined lists comes out, beside that of the parts. -/
inductive Joined (xs ys p q : List Char) : Prop where
  | left (h : Outruns xs ys) (hparts : compare xs ys = .gt)
      (hjoined : compare (xs ++ ':' :: p) (ys ++ ':' :: q) = .lt)
  | right (h : Outruns ys xs) (hparts : compare xs ys = .lt)
      (hjoined : compare (xs ++ ':' :: p) (ys ++ ':' :: q) = .gt)
  | neither (h : ¬ Outruns xs ys) (h' : ¬ Outruns ys xs)
      (hjoined : compare (xs ++ ':' :: p) (ys ++ ':' :: q) = (compare xs ys).then (compare p q))

/-- The two lists may be taken the other way round. -/
theorem Joined.swap {xs ys p q : List Char} (h : Joined xs ys p q) : Joined ys xs q p := by
  have hswap (zs ws : List Char) : compare ws zs = (compare zs ws).swap := Std.OrientedOrd.eq_swap
  cases h with
  | left h hparts hjoined =>
      exact .right h (by rw [hswap xs ys, hparts]; rfl) (by rw [hswap (xs ++ _), hjoined]; rfl)
  | right h hparts hjoined =>
      exact .left h (by rw [hswap xs ys, hparts]; rfl) (by rw [hswap (xs ++ _), hjoined]; rfl)
  | neither h h' hjoined =>
      refine .neither h' h ?_
      rw [hswap (xs ++ _), hjoined, Ordering.swap_then, hswap xs ys, hswap p q]

/-- If one list is empty the colon stands against the head of the other. -/
theorem joined_nil {ys : List Char} (hys : ∀ c ∈ ys, NamespaceLetter c) (p q : List Char) :
    Joined [] ys p q := by
  cases ys with
  | nil => exact .neither not_outruns_nil not_outruns_nil (by simp)
  | cons y ys =>
      rcases belowColon_or_colon_lt (hys y List.mem_cons_self) with hbelow | habove
      · have hgt : compare ':' y = .gt := compare_gt_iff_gt.2 (lt_colon_of_belowColon hbelow)
        exact .right (outruns_nil_iff.2 hbelow) rfl (by simp [hgt])
      · have hlt : compare ':' y = .lt := compare_lt_iff_lt.2 habove
        refine .neither not_outruns_nil ?_ (by simp [hlt])
        exact fun h => (lt_colon_of_belowColon (outruns_nil_iff.1 h)).asymm habove

/-- Equal heads count for nothing, in the parts and in what is joined from them. -/
theorem Joined.cons {xs ys p q : List Char} (h : Joined xs ys p q) (x : Char) :
    Joined (x :: xs) (x :: ys) p q := by
  have hsame {zs ws : List Char} : compare (x :: zs) (x :: ws) = compare zs ws := by
    rw [List.compare_cons_cons, Std.compare_self, Ordering.eq_then]
  cases h with
  | left h hparts hjoined =>
      exact .left (outruns_cons_iff.2 ⟨rfl, h⟩) (hsame.trans hparts) (hsame.trans hjoined)
  | right h hparts hjoined =>
      exact .right (outruns_cons_iff.2 ⟨rfl, h⟩) (hsame.trans hparts) (hsame.trans hjoined)
  | neither h h' hjoined =>
      refine .neither (fun ho => h (outruns_cons_iff.1 ho).2) (fun ho => h' (outruns_cons_iff.1 ho).2) ?_
      rw [hsame]
      exact hsame.trans hjoined

/-- Different heads decide both comparisons. -/
theorem joined_of_ne {x y : Char} (hxy : x ≠ y) (xs ys p q : List Char) :
    Joined (x :: xs) (y :: ys) p q := by
  have hthen (rest : Ordering) : (compare x y).then rest = compare x y := by
    cases h : compare x y with
    | lt => rfl
    | eq => exact absurd (Std.compare_eq_iff_eq.1 h) hxy
    | gt => rfl
  have hcons {zs ws : List Char} : compare (x :: zs) (y :: ws) = compare x y :=
    List.compare_cons_cons.trans (hthen _)
  refine .neither (fun ho => hxy (outruns_cons_iff.1 ho).1) (fun ho => hxy (outruns_cons_iff.1 ho).1.symm) ?_
  rw [hcons, hthen]
  exact hcons

theorem joined {xs ys : List Char} (hxs : ∀ c ∈ xs, NamespaceLetter c)
    (hys : ∀ c ∈ ys, NamespaceLetter c) (p q : List Char) : Joined xs ys p q := by
  induction xs generalizing ys with
  | nil => exact joined_nil hys p q
  | cons x xs ih =>
      cases ys with
      | nil => exact (joined_nil hxs q p).swap
      | cons y ys =>
          by_cases hxy : x = y
          · obtain rfl := hxy
            exact (ih (List.forall_mem_cons.1 hxs).2 (List.forall_mem_cons.1 hys).2).cons x
          · exact joined_of_ne hxy xs ys p q

/-! ## Identifiers -/

namespace Identifier

/-- The namespace of `b` is that of `a` and more, and goes on with a hyphen, a dot or a digit. -/
def Overtakes (b a : Identifier) : Prop := Outruns b.ns.toList a.ns.toList

theorem compareBytes_text (a b : Identifier) :
    compareBytes a.text b.text =
      compare (a.ns.toList ++ ':' :: a.path.toList) (b.ns.toList ++ ':' :: b.path.toList) := by
  rw [Text.compareBytes_eq a.plain_text b.plain_text, ← Text.compare_toList, toList_text, toList_text]

theorem compare_parts (a b : Identifier) :
    compare a b = (compare a.ns.toList b.ns.toList).then (compare a.path.toList b.path.toList) := by
  rw [Text.compare_toList, Text.compare_toList]
  rfl

/-- What the comparison of the texts says, beside that of the identifiers. -/
theorem compare_text_cases (a b : Identifier) :
    (a.Overtakes b ∧ compare a b = .gt ∧ compareBytes a.text b.text = .lt) ∨
    (b.Overtakes a ∧ compare a b = .lt ∧ compareBytes a.text b.text = .gt) ∨
    (¬ a.Overtakes b ∧ ¬ b.Overtakes a ∧ compareBytes a.text b.text = compare a b) := by
  rw [compareBytes_text, compare_parts]
  have hjoin : Joined a.ns.toList b.ns.toList a.path.toList b.path.toList :=
    joined (fun _ => namespaceLetter_of_mem) (fun _ => namespaceLetter_of_mem) ..
  cases hjoin with
  | left h hparts hjoined => exact .inl ⟨h, by rw [hparts]; rfl, hjoined⟩
  | right h hparts hjoined => exact .inr (.inl ⟨h, by rw [hparts]; rfl, hjoined⟩)
  | neither h h' hjoined => exact .inr (.inr ⟨h, h', hjoined⟩)

/-- The bytes of the texts compare as the identifiers, packed or not, unless one namespace is the other and
more and goes on with a hyphen, a dot or a digit.  Then the shorter one comes first, but its text last. -/
theorem compare_text_exact (a b : Identifier) :
    (compare a b = compareBytes a.text b.text ↔ ¬ (a.Overtakes b ∨ b.Overtakes a)) ∧
    (a.pack.compare? b.pack = some (compareBytes a.pack.full b.pack.full) ↔
      ¬ (a.Overtakes b ∨ b.Overtakes a)) ∧
    (b.Overtakes a ↔ compare a b = .lt ∧ compareBytes a.text b.text = .gt) ∧
    (a.Overtakes b ↔ compare a b = .gt ∧ compareBytes a.text b.text = .lt) := by
  have hpack : a.pack.compare? b.pack = some (compareBytes a.pack.full b.pack.full) ↔
      compare a b = compareBytes a.text b.text := by
    rw [compare?_pack, Option.some_inj]
    rfl
  rw [hpack]
  rcases compare_text_cases a b with ⟨ho, hcompare, htext⟩ | ⟨ho, hcompare, htext⟩ | ⟨hno, hno', htext⟩
  · have hno : ¬ b.Overtakes a := Outruns.asymm ho
    simp [ho, hno, hcompare, htext]
  · have hno : ¬ a.Overtakes b := Outruns.asymm ho
    simp [ho, hno, hcompare, htext]
  · rw [htext]
    cases compare a b <;> simp [hno, hno']

/-- A colon, a digit and a letter, in the places where the first namespace ends. -/
example : compareBytes "fuel:coal" "fuel2:coal" = .gt ∧ compareBytes "fuel:coal" "fuels:coal" = .lt := by
  decide

end Identifier

end AttributeRegistry
