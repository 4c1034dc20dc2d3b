import Mathlib.Data.String.Basic

namespace DuckTypes

section Sorting

variable {α : Type} {le : α → α → Bool}

theorem mergeSort_eq_iff (trans : ∀ a b c, le a b → le b c → le a c)
    (total : ∀ a b, le a b || le b a) (antisymm : ∀ a b, le a b → le b a → a = b) {xs ys : List α} :
    xs.mergeSort le = ys.mergeSort le ↔ xs.Perm ys := by
  have hxs := List.mergeSort_perm xs le
  have hys := List.mergeSort_perm ys le
  constructor
  · intro h
    rw [← h] at hys
    exact hxs.symm.trans hys
  · intro h
    apply List.Perm.eq_of_pairwise (fun a b _ _ => antisymm a b)
    · exact List.pairwise_mergeSort trans total xs
    · exact List.pairwise_mergeSort trans total ys
    · exact hxs.trans (h.trans hys.symm)

end Sorting

theorem ofNat_lt_ofNat {m n : Nat} (hm : m < 256) (hn : n < 256) :
    UInt8.ofNat m < UInt8.ofNat n ↔ m < n := by
  rw [UInt8.lt_iff_toNat_lt, UInt8.toNat_ofNat', UInt8.toNat_ofNat', Nat.mod_eq_of_lt hm,
    Nat.mod_eq_of_lt hn]

theorem ofNat_eq_ofNat {m n : Nat} (hm : m < 256) (hn : n < 256) :
    UInt8.ofNat m = UInt8.ofNat n ↔ m = n := by
  rw [← UInt8.toNat_inj, UInt8.toNat_ofNat', UInt8.toNat_ofNat', Nat.mod_eq_of_lt hm,
    Nat.mod_eq_of_lt hn]

theorem toNat_val_lt (c : Char) : c.val.toNat < 1114112 := by
  have hvalid := c.valid
  simp only [UInt32.isValidChar, Nat.isValidChar] at hvalid
  omega

theorem utf8EncodeChar_append_lt {c d : Char} (h : c < d) (u v : List UInt8) :
    String.utf8EncodeChar c ++ u < String.utf8EncodeChar d ++ v := by
  have hlt : c.val.toNat < d.val.toNat := h
  have hd := toNat_val_lt d
  -- the digits of one number are then quotients of one another
  have hdigits (n : Nat) : n / 262144 = n / 64 / 64 / 64 ∧ n / 4096 = n / 64 / 64 := by omega
  simp only [String.utf8EncodeChar]
  generalize c.val.toNat = m at *
  generalize d.val.toNat = n at *
  rw [(hdigits m).1, (hdigits m).2, (hdigits n).1, (hdigits n).2]
  clear hdigits
  -- a longer encoding has a greater first byte
  split_ifs <;> simp only [List.cons_append, List.nil_append, List.cons_lt_cons_iff] <;>
    simp (disch := omega) only [ofNat_lt_ofNat, ofNat_eq_ofNat] <;> omega

theorem flatMap_utf8EncodeChar_lt {cs ds : List Char} (h : cs < ds) :
    cs.flatMap String.utf8EncodeChar < ds.flatMap String.utf8EncodeChar := by
  induction h with
  | @nil d ds =>
    rw [List.flatMap_nil, List.flatMap_cons]
    cases hd : String.utf8EncodeChar d with
    | nil => exact absurd hd String.utf8EncodeChar_ne_nil
    | cons b bs => exact List.nil_lt_cons _ _
  | cons _ ih =>
    rw [List.flatMap_cons, List.flatMap_cons]
    exact List.append_left_lt ih
  | rel h =>
    rw [List.flatMap_cons, List.flatMap_cons]
    exact utf8EncodeChar_append_lt h _ _

def utf8Bytes (a : String) : List UInt8 := a.toUTF8.data.toList

theorem utf8Bytes_eq (a : String) : utf8Bytes a = a.toList.flatMap String.utf8EncodeChar := by
  have h : a.toByteArray = a.toList.utf8Encode := by
    rw [← String.toByteArray_ofList, String.ofList_toList]
  change a.toByteArray.data.toList = _
  rw [h, List.utf8Encode]
  simp

theorem utf8Bytes_lt {a b : String} (h : a < b) : utf8Bytes a < utf8Bytes b := by
  rw [utf8Bytes_eq, utf8Bytes_eq]
  exact flatMap_utf8EncodeChar_lt (String.lt_iff_toList_lt.mp h)

theorem utf8Bytes_le_iff {a b : String} : utf8Bytes a ≤ utf8Bytes b ↔ a ≤ b := by
  constructor
  · intro h
    by_contra hlt
    exact h (utf8Bytes_lt (not_le.mp hlt))
  · intro h
    obtain hlt | rfl := h.lt_or_eq
    · exact List.le_of_lt (utf8Bytes_lt hlt)
    · exact List.le_refl _

def byteSorted (items : List String) : List String :=
  items.mergeSort fun a b => decide (utf8Bytes a ≤ utf8Bytes b)

theorem byteSorted_eq (items : List String) :
    byteSorted items = items.mergeSort fun a b => decide (a ≤ b) := by
  simp only [byteSorted, utf8Bytes_le_iff]

theorem byteSorted_eq_iff {xs ys : List String} : byteSorted xs = byteSorted ys ↔ xs.Perm ys := by
  rw [byteSorted_eq, byteSorted_eq]
  apply mergeSort_eq_iff
  · intro a b c hab hbc
    exact decide_eq_true (String.le_trans (of_decide_eq_true hab) (of_decide_eq_true hbc))
  · intro a b
    rw [Bool.or_eq_true, decide_eq_true_iff, decide_eq_true_iff]
    exact String.le_total a b
  · intro a b hab hba
    exact String.le_antisymm (of_decide_eq_true hab) (of_decide_eq_true hba)

end DuckTypes
