import FleetRollout.Text.Numeral

set_option autoImplicit false

namespace FleetRollout.Word

def checked? (value : Nat) : Option Nat :=
  if value < Text.wordSize then some value else none

def add? (left right : Nat) : Option Nat :=
  checked? (left + right)

def mul? (left right : Nat) : Option Nat :=
  checked? (left * right)

def sub? (left right : Nat) : Option Nat :=
  if right ≤ left then checked? (left - right) else none

def div? (dividend divisor : Nat) : Option Nat :=
  if divisor = 0 then none else checked? (dividend / divisor)

variable {left right dividend divisor : Nat}

theorem add?_eq_some (word : left + right < Text.wordSize) :
    add? left right = some (left + right) :=
  if_pos word

theorem add?_eq_none (beyond : Text.wordSize ≤ left + right) : add? left right = none :=
  if_neg (Nat.not_lt.mpr beyond)

theorem mul?_eq_some (word : left * right < Text.wordSize) :
    mul? left right = some (left * right) :=
  if_pos word

theorem sub?_eq_some (ordered : right ≤ left) (word : left < Text.wordSize) :
    sub? left right = some (left - right) := by
  rw [sub?, if_pos ordered]
  exact if_pos (Nat.lt_of_le_of_lt (Nat.sub_le left right) word)

theorem div?_eq_some (positive : 0 < divisor) (word : dividend < Text.wordSize) :
    div? dividend divisor = some (dividend / divisor) := by
  rw [div?, if_neg (Nat.ne_of_gt positive)]
  exact if_pos (Nat.lt_of_le_of_lt (Nat.div_le_self dividend divisor) word)

end FleetRollout.Word
