import CloudProvider.Dialogue

/-!
# Listings in pages

A listing is asked for page by page, from an offset on and with a fixed page size. Each page says
how many items there are in all.

* `Listing.upTo`: the items of a listing, no more than a given number of them.
* `Listing.all`: all items of a listing.
-/

namespace CloudProvider.Listing

/-- Where a page starts and how many items it may hold. -/
structure Cursor where
  offset : Nat
  limit : UInt64
  deriving DecidableEq, Repr

/-- A page, with the number of items in all that the remote reports. -/
structure Page (α : Type) where
  items : List α
  total : UInt64

variable {Q A α : Type}

/-- Whether a number of items has reached the bound. -/
def isEnough (bound : Option Nat) (count : Nat) : Bool :=
  match bound with
  | none => false
  | some n => n ≤ count

/-- The items collected so far, no more than the bound allows. -/
def cutTo (bound : Option Nat) (items : List α) : List α :=
  match bound with
  | none => items
  | some n => items.take n

/-- The items collected before an offset, with those of the pages from there on. A page that is
empty or that reaches the reported total is the last one. -/
def collectFrom (pageSize : UInt64) (bound : Option Nat)
    (fetch : Cursor → Operation Q A (Page α)) (collected : List α) (offset : Nat) :
    Operation Q A (List α) := do
  let page ← fetch ⟨offset, pageSize⟩
  let items := collected ++ page.items
  let next := offset + page.items.length
  if isEnough bound items.length then
    return cutTo bound items
  else if page.items.length = 0 ∨ page.total.toNat ≤ next then
    return items
  else
    collectFrom pageSize bound fetch items next
  termination_by UInt64.size - offset
  decreasing_by
    have := page.total.toNat_lt_size
    omega

/-- **The items of a listing, no more than `bound` of them** if there is a bound. -/
def upTo (pageSize : UInt64) (bound : Option Nat) (fetch : Cursor → Operation Q A (Page α)) :
    Operation Q A (List α) :=
  if pageSize = 0 then throw (.invalid "page size must be positive")
  else collectFrom pageSize bound fetch [] 0

/-- **All items of a listing.** -/
def all (pageSize : UInt64) (fetch : Cursor → Operation Q A (Page α)) : Operation Q A (List α) :=
  upTo pageSize none fetch

end CloudProvider.Listing
