import Storefront.Json.Format

/-! The texts of JSON values, with spaces between their parts, and which of them have the same
members in another order. -/

namespace Storefront.Json

open Reader Format

def IsGap (gap : List Char) : Prop :=
  ∀ c ∈ gap, isSpace c = true

inductive IsStringBody : List Char → Prop
  | nil : IsStringBody []
  | plain {c : Char} {t : List Char} (hquote : c ≠ '"') (hbackslash : c ≠ '\\')
      (hcontrol : isControl c = false) (ht : IsStringBody t) : IsStringBody (c :: t)
  | letter {x c : Char} {t : List Char} (hx : simpleEscape? x = some c) (ht : IsStringBody t) :
      IsStringBody ('\\' :: x :: t)
  | code {x y z w : Char} {n : Nat} {t : List Char} (hn : fourHex? x y z w = some n)
      (ht : IsStringBody t) : IsStringBody ('\\' :: 'u' :: x :: y :: z :: w :: t)

def joined (n m : Nat) : Char :=
  Char.ofNat (0x10000 + (n - 0xD800) * 0x400 + (m - 0xDC00))

/-- The characters that the body of a string stands for. -/
inductive Spelled : List Char → List Char → Prop
  | nil : Spelled [] []
  | plain {c : Char} {t cs : List Char} (hquote : c ≠ '"') (hbackslash : c ≠ '\\')
      (hcontrol : isControl c = false) (ht : Spelled t cs) : Spelled (c :: t) (c :: cs)
  | letter {x c : Char} {t cs : List Char} (hx : simpleEscape? x = some c) (ht : Spelled t cs) :
      Spelled ('\\' :: x :: t) (c :: cs)
  | code {x y z w : Char} {n : Nat} {t cs : List Char} (hn : fourHex? x y z w = some n)
      (hleading : isLeading n = false) (htrailing : isTrailing n = false) (ht : Spelled t cs) :
      Spelled ('\\' :: 'u' :: x :: y :: z :: w :: t) (Char.ofNat n :: cs)
  | pair {x y z w x' y' z' w' : Char} {n m : Nat} {t cs : List Char}
      (hn : fourHex? x y z w = some n) (hm : fourHex? x' y' z' w' = some m)
      (hleading : isLeading n = true) (htrailing : isTrailing m = true) (ht : Spelled t cs) :
      Spelled ('\\' :: 'u' :: x :: y :: z :: w :: '\\' :: 'u' :: x' :: y' :: z' :: w' :: t)
        (joined n m :: cs)

def AreDigits (ds : List Char) : Prop :=
  ds ≠ [] ∧ ∀ d ∈ ds, d.isDigit = true

def IsWhole (t : List Char) : Prop :=
  t = ['0'] ∨ AreDigits t ∧ t.head? ≠ some '0'

def IsFraction (t : List Char) : Prop :=
  t = [] ∨ ∃ ds, t = '.' :: ds ∧ AreDigits ds

def IsExponent (t : List Char) : Prop :=
  t = [] ∨ ∃ mark sign ds, t = mark :: (sign ++ ds) ∧ Number.isExponentMark mark = true ∧
    (sign = [] ∨ sign = ['+'] ∨ sign = ['-']) ∧ AreDigits ds

inductive IsNumber : List Char → Prop
  | mk {sign whole fraction exponent : List Char} (hsign : sign = [] ∨ sign = ['-'])
      (hwhole : IsWhole whole) (hfraction : IsFraction fraction) (hexponent : IsExponent exponent) :
      IsNumber (sign ++ (whole ++ (fraction ++ exponent)))

inductive IsToken : List Char → Prop
  | null : IsToken "null".toList
  | true : IsToken "true".toList
  | false : IsToken "false".toList
  | number {t : List Char} (ht : IsNumber t) : IsToken t
  | string {body : List Char} (hbody : IsStringBody body) : IsToken ('"' :: (body ++ ['"']))

structure Item where
  before : List Char
  value : List Char
  after : List Char

namespace Item

def text (i : Item) : List Char :=
  i.before ++ (i.value ++ i.after)

structure Spaced (i : Item) : Prop where
  before : IsGap i.before
  after : IsGap i.after

end Item

structure Member where
  before : List Char
  key : List Char
  gap : List Char
  item : Item

namespace Member

def text (m : Member) : List Char :=
  m.before ++ '"' :: (m.key ++ '"' :: (m.gap ++ ':' :: m.item.text))

structure Spaced (m : Member) : Prop where
  before : IsGap m.before
  key : IsStringBody m.key
  gap : IsGap m.gap
  item : m.item.Spaced

end Member

def listText (items : List Item) (blank : List Char) : List Char :=
  '[' :: (commas (items.map Item.text) ++ (blank ++ [']']))

def objectText (ms : List Member) (blank : List Char) : List Char :=
  '\x7b' :: (commas (ms.map Member.text) ++ (blank ++ ['\x7d']))

inductive IsValue : List Char → Prop
  | token {t : List Char} (ht : IsToken t) : IsValue t
  | list {items : List Item} {blank : List Char} (hblank : IsGap blank)
      (hitems : ∀ i ∈ items, i.Spaced) (hvalues : ∀ i ∈ items, IsValue i.value) :
      IsValue (listText items blank)
  | object {ms : List Member} {blank : List Char} (hblank : IsGap blank)
      (hms : ∀ m ∈ ms, m.Spaced) (hvalues : ∀ m ∈ ms, IsValue m.item.value) :
      IsValue (objectText ms blank)

/-- The same value with the members of its objects, at any level, in another order. Spaces between
the parts may differ as well. -/
inductive Reordered : List Char → List Char → Prop
  | token {t : List Char} (ht : IsToken t) : Reordered t t
  | list {pairs : List (Item × Item)} {blank blank' : List Char} (hblank : IsGap blank)
      (hblank' : IsGap blank') (hitems : ∀ p ∈ pairs, p.1.Spaced ∧ p.2.Spaced)
      (hvalues : ∀ p ∈ pairs, Reordered p.1.value p.2.value) :
      Reordered (listText (pairs.map Prod.fst) blank) (listText (pairs.map Prod.snd) blank')
  | object {pairs : List (Member × Member)} {ms : List Member} {blank blank' : List Char}
      (hblank : IsGap blank) (hblank' : IsGap blank') (hms : ∀ p ∈ pairs, p.1.Spaced ∧ p.2.Spaced)
      (hkeys : ∀ p ∈ pairs, p.1.key = p.2.key)
      (hvalues : ∀ p ∈ pairs, Reordered p.1.item.value p.2.item.value)
      (hperm : (pairs.map Prod.snd).Perm ms) :
      Reordered (objectText (pairs.map Prod.fst) blank) (objectText ms blank')

theorem isGap_nil : IsGap [] := by simp [IsGap]

theorem Reordered.isValue {t t' : List Char} (h : Reordered t t') : IsValue t ∧ IsValue t' := by
  induction h with
  | token ht => exact ⟨.token ht, .token ht⟩
  | @list pairs blank blank' hblank hblank' hitems _ ih =>
    constructor
    · refine .list hblank ?_ ?_
      · simpa using fun a b hp => (hitems (a, b) hp).1
      · simpa using fun a b hp => (ih (a, b) hp).1
    · refine .list hblank' ?_ ?_
      · simpa using fun b a hp => (hitems (a, b) hp).2
      · simpa using fun b a hp => (ih (a, b) hp).2
  | @object pairs ms blank blank' hblank hblank' hms _ _ hperm ih =>
    constructor
    · refine .object hblank ?_ ?_
      · simpa using fun a b hp => (hms (a, b) hp).1
      · simpa using fun a b hp => (ih (a, b) hp).1
    · refine .object hblank' ?_ ?_
      · intro m hm
        obtain ⟨p, hp, rfl⟩ := List.mem_map.1 (hperm.mem_iff.2 hm)
        exact (hms p hp).2
      · intro m hm
        obtain ⟨p, hp, rfl⟩ := List.mem_map.1 (hperm.mem_iff.2 hm)
        exact (ih p hp).2

theorem reordered_of_perm {ms ms' : List Member} {blank blank' : List Char} (hblank : IsGap blank)
    (hblank' : IsGap blank') (hms : ∀ m ∈ ms, m.Spaced)
    (hvalues : ∀ m ∈ ms, Reordered m.item.value m.item.value) (hperm : ms.Perm ms') :
    Reordered (objectText ms blank) (objectText ms' blank') := by
  have hpairs : (ms.map fun m => (m, m)).map Prod.fst = ms ∧
      (ms.map fun m => (m, m)).map Prod.snd = ms := by simp [Function.comp_def]
  have h := @Reordered.object (ms.map fun m => (m, m)) ms' blank blank' hblank hblank'
    (by simpa using hms) (by simp) (by simpa using hvalues) (hpairs.2.symm ▸ hperm)
  rwa [hpairs.1] at h

theorem IsValue.reordered {t : List Char} (h : IsValue t) : Reordered t t := by
  induction h with
  | token ht => exact .token ht
  | @list items blank hblank hitems _ ih =>
    have hpairs : (items.map fun i => (i, i)).map Prod.fst = items ∧
        (items.map fun i => (i, i)).map Prod.snd = items := by simp [Function.comp_def]
    have h := @Reordered.list (items.map fun i => (i, i)) blank blank hblank hblank
      (by simpa using hitems) (by simpa using ih)
    rwa [hpairs.1, hpairs.2] at h
  | object hblank hms _ ih => exact reordered_of_perm hblank hblank hms ih (.refl _)

end Storefront.Json
