/-!
# Names

Names of tables, columns and algorithm types are compared without regard to the case of their
ASCII letters. Other letters keep their case, so `É` and `é` name different things.
-/

set_option autoImplicit false

namespace Sharding.Name

/-- A name with its ASCII letters in lower case: the key under which it is stored. -/
def fold (name : String) : String :=
  name.map Char.toLower

/-- Two spellings of one name. -/
def Same (left right : String) : Prop :=
  fold left = fold right

instance (left right : String) : Decidable (Same left right) :=
  inferInstanceAs (Decidable (_ = _))

theorem Same.refl (name : String) : Same name name := rfl

theorem Same.symm {left right : String} (h : Same left right) : Same right left :=
  Eq.symm h

theorem Same.trans {a b c : String} (left : Same a b) (right : Same b c) : Same a c :=
  Eq.trans left right

/-- A name with its ASCII letters in upper case, the way type names are listed. -/
def upper (name : String) : String :=
  name.map Char.toUpper

end Sharding.Name
