import Mathlib.Data.List.Basic
import Storefront.Proofs.Batch.Collision

/-! Causes of failures told apart by their texts. -/

namespace Storefront

theorem repr_injective {m n : Nat} (h : m.repr = n.repr) : m = n := by
  have hdigits : Nat.toDigits 10 m = Nat.toDigits 10 n := by
    have := congrArg String.toList h
    rwa [Nat.repr, Nat.repr, String.toList_ofList, String.toList_ofList] at this
  have hvalue := congrArg (Nat.ofDigitChars 10 · 0) hdigits
  simpa only [Nat.ofDigitChars_toDigits (b := 10) (by decide) (by decide)] using hvalue

theorem Dimensions.display_injective {d e : Dimensions} (h : d.display = e.display) : d = e := by
  have notMem (n : Nat) : 'x' ∉ n.repr.toList := by
    rw [Nat.repr, String.toList_ofList]
    intro hx
    have hdigit := Nat.isDigit_of_mem_toDigits (by decide) (by decide) hx
    contradiction
  have htext := congrArg String.toList h
  simp only [display, String.toList_append] at htext
  have hsplit := (List.append_cons_inj_of_notMem (notMem _) (notMem _)).1
    (show d.width.toNat.repr.toList ++ 'x' :: d.height.toNat.repr.toList =
      e.width.toNat.repr.toList ++ 'x' :: e.height.toNat.repr.toList by simpa using htext)
  have hwidth := UInt32.toNat_inj.1 (repr_injective (String.toList_inj.1 hsplit.1))
  have hheight := UInt32.toNat_inj.1 (repr_injective (String.toList_inj.1 hsplit.2.2))
  calc
    d = ⟨d.width, d.height⟩ := rfl
    _ = ⟨e.width, e.height⟩ := by rw [hwidth, hheight]

theorem getElem?_append {s : String} {i : Nat} {c : Char} (h : s.toList[i]? = some c) (t : String) :
    (s ++ t).toList[i]? = some c := by
  have hi := (List.getElem?_eq_some_iff.1 h).1
  rw [String.toList_append, List.getElem?_append_left hi, h]

def ImageError.initial : ImageError → Char
  | .io _ | .invalidDimensions _ => 'I'
  | .decode _ => 'D'
  | .encode _ => 'E'
  | .arithmetic _ => 'a'

theorem ImageError.head?_message (e : ImageError) : e.message.toList.head? = some e.initial := by
  cases e with
  | io e => exact head?_append (c := 'I') (by decide) e.message
  | decode e => exact head?_append (c := 'D') (by decide) e.message
  | encode e => exact head?_append (c := 'E') (by decide) e.message
  | invalidDimensions d => exact head?_append (c := 'I') (by decide) d.display
  | arithmetic e =>
    cases e
    decide

def ItemFault.initial : ItemFault → Char
  | .noFileName => 's'
  | .collision _ => 'o'

theorem ItemFault.head?_message (f : ItemFault) : f.message.toList.head? = some f.initial := by
  cases f with
  | noFileName => decide
  | collision claimedBy => exact head?_append (c := 'o') (by decide) claimedBy.displayName

theorem ImageError.message_ne_fault (e : ImageError) (f : ItemFault) : e.message ≠ f.message := by
  intro h
  have hinitial := congrArg (fun t : String => t.toList.head?) h
  simp only [head?_message, ItemFault.head?_message, Option.some.injEq] at hinitial
  cases e <;> cases f <;> simp [initial, ItemFault.initial] at hinitial

theorem ItemFault.eq_noFileName {f : ItemFault} (h : f.message = noFileName.message) :
    f = .noFileName := by
  have hinitial := congrArg (fun t : String => t.toList.head?) h
  simp only [head?_message, Option.some.injEq] at hinitial
  cases f with
  | noFileName => rfl
  | collision claimedBy => simp [initial] at hinitial

theorem ImageError.eq_invalidDimensions {e : ImageError} {d : Dimensions}
    (h : e.message = (invalidDimensions d).message) : e = .invalidDimensions d := by
  cases e with
  | invalidDimensions d' =>
    have htext : "Invalid dimensions " ++ d'.display = "Invalid dimensions " ++ d.display := h
    rw [Dimensions.display_injective ((String.append_right_inj _).1 htext)]
  | io e =>
    -- Both begin with the same letter; the second one differs.
    have hio : (io e).message.toList[1]? = some '/' := getElem?_append (by decide) e.message
    have hsize : (invalidDimensions d).message.toList[1]? = some 'n' :=
      getElem?_append (by decide) d.display
    rw [h, hsize] at hio
    simp at hio
  | decode e | encode e | arithmetic e =>
    have hinitial := congrArg (fun t : String => t.toList.head?) h
    simp only [head?_message, Option.some.injEq] at hinitial
    simp [initial] at hinitial

theorem ImageError.eq_arithmetic {e : ImageError} {a : ArithmeticError}
    (h : e.message = (arithmetic a).message) : e = .arithmetic a := by
  cases e with
  | arithmetic b => cases a; cases b; rfl
  | io e | decode e | encode e | invalidDimensions d =>
    have hinitial := congrArg (fun t : String => t.toList.head?) h
    simp only [head?_message, Option.some.injEq] at hinitial
    simp [initial] at hinitial

end Storefront
