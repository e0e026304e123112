import Mathlib.Algebra.GroupWithZero.Nat
import Mathlib.Order.Basic
import Mathlib.Order.Fin.Basic

/-!
# Typed identifiers

A UUID is a 128-bit value. Each identifier type wraps one and inherits its
order, so a user id can never stand where a group id is expected.
-/

namespace WikiNext.Core

/-- A 128-bit UUID; the derived order is the order of its 16 bytes. -/
abbrev Uuid : Type := Fin (2 ^ 128)

instance Uuid.neZero : NeZero (2 ^ 128) := ⟨by decide⟩

structure UserId where
  new ::
  into_uuid : Uuid
deriving DecidableEq, Repr

structure PageId where
  new ::
  into_uuid : Uuid
deriving DecidableEq, Repr

structure GroupId where
  new ::
  into_uuid : Uuid
deriving DecidableEq, Repr

theorem GroupId.into_uuid_injective : Function.Injective GroupId.into_uuid := by
  rintro ⟨u⟩ ⟨v⟩ h
  exact congrArg GroupId.new h

instance : LinearOrder GroupId :=
  LinearOrder.lift' GroupId.into_uuid GroupId.into_uuid_injective

end WikiNext.Core
